import Mathlib.Data.List.Induction
import Mathlib.Data.List.Nodup
import UtilityCss.Table

namespace UtilityCss.Table

variable {κ α : Type} [DecidableEq κ]

theorem find?_eq_some_iff {es : List (κ × α)} (hd : (es.map Prod.fst).Nodup) (k : κ) (v : α) :
    find? k es = some v ↔ (k, v) ∈ es := by
  induction es with
  | nil => simp [find?]
  | cons e r ih =>
    rw [List.map_cons, List.nodup_cons] at hd
    obtain ⟨hfresh, hd⟩ := hd
    rw [find?, List.mem_cons]
    by_cases hk : e.1 = k
    · have hr : (k, v) ∉ r := fun hm => hfresh (hk ▸ List.mem_map_of_mem hm)
      rw [if_pos hk, Option.some_inj]
      constructor
      · intro hv
        exact Or.inl (Prod.ext hk.symm hv.symm)
      · rintro (he | hm)
        · rw [← he]
        · exact absurd hm hr
    · have he : (k, v) ≠ e := fun he => hk (congrArg Prod.fst he).symm
      rw [if_neg hk, ih hd]
      simp only [he, false_or]

theorem get?_eq_some_iff (t : Table κ α) (k : κ) (v : α) : t.get? k = some v ↔ (k, v) ∈ t.entries :=
  find?_eq_some_iff t.distinct k v

def filter (p : κ → α → Bool) (t : Table κ α) : Table κ α :=
  ⟨t.entries.filter fun e => p e.1 e.2, t.distinct.sublist (List.filter_sublist.map _)⟩

theorem get?_filter (p : κ → α → Bool) (t : Table κ α) (k : κ) :
    (t.filter p).get? k = (t.get? k).filter (p k) := by
  apply Option.ext
  intro v
  rw [get?_eq_some_iff, Option.filter_eq_some_iff, get?_eq_some_iff, filter, List.mem_filter]

theorem get?_map {β : Type} (f : α → β) (t : Table κ α) (k : κ) : (t.map f).get? k = (t.get? k).map f := by
  rw [get?, get?, map]
  dsimp only
  induction t.entries with
  | nil => rfl
  | cons e es ih =>
    rw [List.map_cons, find?, find?, ih]
    split <;> rfl

omit [DecidableEq κ] in
theorem keys_map {β : Type} (f : α → β) (t : Table κ α) : (t.map f).keys = t.keys := by
  simp [keys, map, Function.comp_def]

theorem contains_eq_of_filter {t u : Table κ α} {p : κ × α → Bool} (h : t.entries = u.entries.filter p) {k : κ}
    (hk : ∀ v, p (k, v) = true) : t.contains k = u.contains k := by
  rw [Bool.eq_iff_iff, contains_iff, contains_iff, keys, keys, h]
  simp [hk]

theorem get?_filter_of_forall {p : κ → α → Bool} {k : κ} (h : ∀ v, p k v = true) (t : Table κ α) :
    (t.filter p).get? k = t.get? k := by
  rw [get?_filter]
  cases t.get? k <;> simp [h]

theorem get?_erase (t : Table κ α) (k l : κ) :
    (t.erase k).get? l = if k = l then none else t.get? l := by
  have h : t.erase k = t.filter fun n _ => n ≠ k := rfl
  rw [h, get?_filter]
  by_cases hl : k = l
  · cases t.get? l <;> simp [hl]
  · cases t.get? l <;> simp [hl, Ne.symm hl]

theorem get?_ofList_filterMap (f : κ → Option α) (ks : List κ) (k : κ) :
    (ofList (ks.filterMap fun k => (f k).map fun v => (k, v))).get? k = if k ∈ ks then f k else none := by
  suffices h : ∀ t : Table κ α, ((ks.filterMap fun k => (f k).map fun v => (k, v)).foldl
      (fun t e => t.insert e.1 e.2) t).get? k = if k ∈ ks ∧ (f k).isSome = true then f k else t.get? k by
    rw [ofList, h, get?_empty]
    cases f k <;> simp
  induction ks with
  | nil => simp
  | cons l ks ih =>
    intro t
    cases hl : f l with
    | none =>
      rw [List.filterMap_cons_none (by rw [hl]; rfl), ih]
      by_cases hk : k = l
      · subst hk
        simp [hl]
      · simp [hk]
    | some v =>
      rw [List.filterMap_cons_some (by rw [hl]; rfl), List.foldl_cons, ih, get?_insert]
      by_cases hk : k = l
      · subst hk
        simp [hl]
      · simp [hk, Ne.symm hk]

theorem mem_put {k : κ} {v : α} {e : κ × α} {es : List (κ × α)} (h : e ∈ put k v es) : e = (k, v) ∨ e ∈ es := by
  induction es with
  | nil => exact .inl (List.mem_singleton.1 h)
  | cons f es ih =>
    rw [put] at h
    split at h
    · exact (List.mem_cons.1 h).imp_right (List.mem_cons_of_mem f)
    · rcases List.mem_cons.1 h with rfl | h
      · exact .inr (List.mem_cons_self ..)
      · exact (ih h).imp_right (List.mem_cons_of_mem f)

theorem put_of_fresh {k : κ} {es : List (κ × α)} (h : k ∉ es.map Prod.fst) (v : α) :
    put k v es = es ++ [(k, v)] := by
  induction es with
  | nil => rfl
  | cons e es ih =>
    rw [List.map_cons, List.mem_cons, not_or] at h
    rw [put, if_neg (Ne.symm h.1), ih h.2, List.cons_append]

theorem entries_ofList {es : List (κ × α)} (h : (es.map Prod.fst).Nodup) :
    (ofList es).entries = es := by
  induction es using List.reverseRecOn with
  | nil => rfl
  | append_singleton es e ih =>
    rw [List.map_append, List.map_singleton, List.nodup_append] at h
    have hfresh : e.1 ∉ (ofList es).entries.map Prod.fst := by
      rw [ih h.1]
      exact fun hm => h.2.2 _ hm _ (List.mem_singleton.2 rfl) rfl
    rw [ofList, List.foldl_concat, ← ofList, insert]
    dsimp only
    rw [put_of_fresh hfresh, ih h.1]

theorem ofList_eq {es : List (κ × α)} (h : (es.map Prod.fst).Nodup) : ofList es = ⟨es, h⟩ := by
  have hentries := entries_ofList h
  cases ht : ofList es with
  | mk fs hd =>
    rw [ht] at hentries
    cases hentries
    rfl

theorem forall_ofList {P : κ × α → Prop} {es : List (κ × α)} (h : ∀ e ∈ es, P e) :
    ∀ e ∈ (ofList es).entries, P e := by
  induction es using List.reverseRecOn with
  | nil => exact nofun
  | append_singleton es f ih =>
    rw [List.forall_mem_append, List.forall_mem_singleton] at h
    intro e he
    rw [ofList, List.foldl_concat, ← ofList] at he
    rcases mem_put he with rfl | he
    · exact h.2
    · exact ih h.1 e he

variable {ι : Type} [DecidableEq ι]

def lastValue (k : κ) (es : List (κ × α)) : Option α :=
  find? k es.reverse

theorem find?_append (k : κ) (es fs : List (κ × α)) : find? k (es ++ fs) = (find? k es).or (find? k fs) := by
  induction es with
  | nil => rfl
  | cons e es ih =>
    rw [List.cons_append, find?, find?, ih]
    split <;> rfl

theorem lastValue_append (k : κ) (es fs : List (κ × α)) :
    lastValue k (es ++ fs) = (lastValue k fs).or (lastValue k es) := by
  rw [lastValue, List.reverse_append, find?_append, ← lastValue, ← lastValue]

theorem lastValue_isSome (k : κ) (es : List (κ × α)) : (lastValue k es).isSome ↔ k ∈ es.map Prod.fst := by
  rw [lastValue, find?_isSome, List.map_reverse, List.mem_reverse]

theorem lastValue_eq_none (k : κ) (es : List (κ × α)) : lastValue k es = none ↔ k ∉ es.map Prod.fst := by
  rw [← lastValue_isSome, Option.not_isSome_iff_eq_none]

theorem find?_map {f : κ → ι} {k : κ} {es : List (κ × α)} (h : ∀ e ∈ es, f e.1 = f k → e.1 = k) :
    find? (f k) (es.map fun e => (f e.1, e.2)) = find? k es := by
  induction es with
  | nil => rfl
  | cons e es ih =>
    rw [List.forall_mem_cons] at h
    rw [List.map_cons, find?, find?, ih h.2]
    by_cases hk : e.1 = k
    · rw [if_pos hk, if_pos (congrArg f hk)]
    · rw [if_neg hk, if_neg fun hf => hk (h.1 hf)]

theorem lastValue_map {f : κ → ι} {k : κ} {es : List (κ × α)} (h : ∀ e ∈ es, f e.1 = f k → e.1 = k) :
    lastValue (f k) (es.map fun e => (f e.1, e.2)) = lastValue k es := by
  rw [lastValue, ← List.map_reverse, find?_map fun e he => h e (List.mem_reverse.1 he), ← lastValue]

theorem find?_filterMap {β : Type} {g : β → Option (κ × α)} {f : β → Option α} {k : κ} {bs : List β}
    (h : ∀ b ∈ bs, ∀ v, g b = some (k, v) ↔ f b = some v) : find? k (bs.filterMap g) = bs.findSome? f := by
  induction bs with
  | nil => rfl
  | cons b bs ih =>
    rw [List.forall_mem_cons] at h
    obtain ⟨hb, hbs⟩ := h
    rw [List.filterMap_cons, List.findSome?_cons]
    cases hg : g b with
    | none =>
      have hf : f b = none := Option.eq_none_iff_forall_ne_some.2 fun v hv => by simp [(hb v).2 hv] at hg
      rw [hf]
      exact ih hbs
    | some e =>
      obtain ⟨l, v⟩ := e
      dsimp only
      rw [find?]
      by_cases hl : l = k
      · subst hl
        rw [if_pos rfl, (hb v).1 hg]
      · have hf : f b = none := by
          refine Option.eq_none_iff_forall_ne_some.2 fun w hw => hl ?_
          rw [(hb w).2 hw] at hg
          cases hg
          rfl
        rw [if_neg hl, hf]
        exact ih hbs

theorem findSome?_key {β : Type} {f : α → Option β} {k : κ} {es : List (κ × α)} (hd : (es.map Prod.fst).Nodup) :
    (es.findSome? fun e => if e.1 = k then f e.2 else none) = (find? k es).bind f := by
  induction es with
  | nil => rfl
  | cons e es ih =>
    rw [List.map_cons, List.nodup_cons] at hd
    rw [List.findSome?_cons, find?, ih hd.2]
    by_cases hk : e.1 = k
    · have hnone : find? k es = none := by
        rw [← Option.not_isSome_iff_eq_none, find?_isSome]
        exact hk ▸ hd.1
      rw [if_pos hk, if_pos hk, hnone, Option.bind_some]
      cases f e.2 <;> rfl
    · rw [if_neg hk, if_neg hk]

theorem lastValue_of_nodup {es : List (κ × α)} (hd : (es.map Prod.fst).Nodup) (k : κ) :
    lastValue k es = find? k es := by
  apply Option.ext
  intro v
  have hreverse : (es.reverse.map Prod.fst).Nodup := by rwa [List.map_reverse, List.nodup_reverse]
  rw [lastValue, find?_eq_some_iff hreverse, find?_eq_some_iff hd, List.mem_reverse]

theorem get?_foldl_insert (k : κ) (es : List (κ × α)) (t : Table κ α) :
    (es.foldl (fun t e => t.insert e.1 e.2) t).get? k = (lastValue k es).or (t.get? k) := by
  induction es using List.reverseRecOn with
  | nil => rfl
  | append_singleton es e ih =>
    have hlast : lastValue k [e] = if e.1 = k then some e.2 else none := rfl
    rw [List.foldl_concat, get?_insert, ih, lastValue_append, hlast]
    split <;> rfl

theorem get?_ofList (k : κ) (es : List (κ × α)) : (ofList es).get? k = lastValue k es := by
  rw [ofList, get?_foldl_insert, get?_empty, Option.or_none]

theorem get?_update (t u : Table κ α) (k : κ) : (t.update u).get? k = (u.get? k).or (t.get? k) := by
  rw [update, get?_foldl_insert, lastValue_of_nodup u.distinct, ← get?]

theorem keys_update (t u : Table κ α) : (t.update u).keys = t.keys ++ u.keys.filter (· ∉ t.keys) := by
  suffices h : ∀ es : List (κ × α), (es.map Prod.fst).Nodup → ∀ t : Table κ α,
      (es.foldl (fun t e => t.insert e.1 e.2) t).keys = t.keys ++ (es.map Prod.fst).filter (· ∉ t.keys) from
    h u.entries u.distinct t
  intro es hd
  induction es with
  | nil => simp
  | cons e es ih =>
    intro t
    rw [List.map_cons, List.nodup_cons] at hd
    obtain ⟨hfresh, hd⟩ := hd
    rw [List.foldl_cons, ih hd, keys_insert, List.map_cons]
    by_cases hk : e.1 ∈ t.keys
    · rw [if_pos hk, List.filter_cons_of_neg (by simpa using hk)]
    · -- among the keys that are left the new one does not occur
      have hrest : (es.map Prod.fst).filter (· ∉ t.keys ++ [e.1]) = (es.map Prod.fst).filter (· ∉ t.keys) := by
        apply List.filter_congr
        intro k hm
        have hne : k ≠ e.1 := fun he => hfresh (he ▸ hm)
        simp [hne]
      rw [if_neg hk, List.filter_cons_of_pos (by simpa using hk), hrest, List.append_assoc, List.singleton_append]

end UtilityCss.Table
