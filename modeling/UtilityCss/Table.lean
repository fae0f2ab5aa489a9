namespace UtilityCss

structure Table (κ α : Type) where
  entries : List (κ × α)
  distinct : (entries.map Prod.fst).Nodup

namespace Table

variable {κ α β : Type}

def keys (t : Table κ α) : List κ :=
  t.entries.map Prod.fst

def values (t : Table κ α) : List α :=
  t.entries.map Prod.snd

def size (t : Table κ α) : Nat :=
  t.entries.length

def empty : Table κ α :=
  ⟨[], by simp⟩

instance : Inhabited (Table κ α) := ⟨empty⟩

def map (f : α → β) (t : Table κ α) : Table κ β :=
  ⟨t.entries.map fun e => (e.1, f e.2), by simpa [List.map_map, Function.comp_def] using t.distinct⟩

variable [DecidableEq κ]

def put (k : κ) (v : α) : List (κ × α) → List (κ × α)
  | [] => [(k, v)]
  | e :: r => if e.1 = k then (k, v) :: r else e :: put k v r

theorem map_fst_put (k : κ) (v : α) (es : List (κ × α)) :
    (put k v es).map Prod.fst =
      if k ∈ es.map Prod.fst then es.map Prod.fst else es.map Prod.fst ++ [k] := by
  induction es with
  | nil => simp [put]
  | cons e r ih =>
    by_cases h : e.1 = k
    · simp [put, h]
    · have hk : k ≠ e.1 := fun hk => h hk.symm
      by_cases hr : k ∈ r.map Prod.fst
      · simp only [put, h, if_false, List.map_cons, ih, List.mem_cons, hk, false_or]
        rw [if_pos hr, if_pos hr]
      · simp only [put, h, if_false, List.map_cons, ih, List.mem_cons, hk, false_or]
        rw [if_neg hr, if_neg hr, List.cons_append]

theorem nodup_put (k : κ) (v : α) {es : List (κ × α)} (h : (es.map Prod.fst).Nodup) :
    ((put k v es).map Prod.fst).Nodup := by
  rw [map_fst_put]
  split
  · exact h
  · rename_i hk
    refine List.nodup_append.2 ⟨h, by simp, fun a ha b hb hab => hk ?_⟩
    rw [List.mem_singleton.1 hb] at hab
    exact hab ▸ ha

def insert (k : κ) (v : α) (t : Table κ α) : Table κ α :=
  ⟨put k v t.entries, nodup_put k v t.distinct⟩

def ofList (es : List (κ × α)) : Table κ α :=
  es.foldl (fun t e => t.insert e.1 e.2) empty

def update (t u : Table κ α) : Table κ α :=
  u.entries.foldl (fun t e => t.insert e.1 e.2) t

def find? (k : κ) : List (κ × α) → Option α
  | [] => none
  | e :: r => if e.1 = k then some e.2 else find? k r

def get? (t : Table κ α) (k : κ) : Option α :=
  find? k t.entries

def contains (t : Table κ α) (k : κ) : Bool :=
  (t.get? k).isSome

def erase (t : Table κ α) (k : κ) : Table κ α :=
  ⟨t.entries.filter fun e => e.1 ≠ k, t.distinct.sublist (List.filter_sublist.map _)⟩

theorem keys_insert (k : κ) (v : α) (t : Table κ α) :
    (t.insert k v).keys = if k ∈ t.keys then t.keys else t.keys ++ [k] :=
  map_fst_put k v t.entries

theorem find?_put (k l : κ) (v : α) (es : List (κ × α)) :
    find? l (put k v es) = if k = l then some v else find? l es := by
  induction es with
  | nil => simp [put, find?]
  | cons e r ih =>
    by_cases h : e.1 = k
    · by_cases hl : k = l
      · simp [put, find?, h, hl]
      · simp [put, find?, h, hl]
    · by_cases hl : e.1 = l
      · subst hl
        simp [put, find?, h, Ne.symm h]
      · simp [put, find?, h, hl, ih]

@[simp] theorem get?_insert (k l : κ) (v : α) (t : Table κ α) :
    (t.insert k v).get? l = if k = l then some v else t.get? l :=
  find?_put k l v t.entries

@[simp] theorem get?_empty (k : κ) : (empty : Table κ α).get? k = none := rfl

theorem find?_isSome (k : κ) (es : List (κ × α)) :
    (find? k es).isSome ↔ k ∈ es.map Prod.fst := by
  induction es with
  | nil => simp [find?]
  | cons e r ih =>
    by_cases h : e.1 = k
    · simp [find?, h]
    · have : k ≠ e.1 := fun hk => h hk.symm
      simp only [find?, h, if_false, ih, List.map_cons, List.mem_cons, this, false_or]

theorem contains_iff (t : Table κ α) (k : κ) : t.contains k ↔ k ∈ t.keys :=
  find?_isSome k t.entries

end Table

end UtilityCss
