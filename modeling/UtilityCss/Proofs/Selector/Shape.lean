import UtilityCss.Proofs.Selector.Escape
import UtilityCss.Proofs.Text.Trim
import UtilityCss.Utility.Family

namespace UtilityCss.Selector

open Text Vocabulary

def states : List (Option String × Option String) :=
  (none :: variants.keys.map some) ×ˢ [none, some Family.laterChildren]

def Stated (c : Context) : Prop :=
  (c.variant, c.selector) ∈ states

instance (c : Context) : Decidable (Stated c) :=
  inferInstanceAs (Decidable (_ ∈ states))

def ofGroup (variant : String) : Bool :=
  (after? groupMark.toList variant.toList).isSome

def suffix (variant : String) : List Char :=
  ((variants.get? variant).getD (":" ++ variant)).toList

def front : Option String → List Char
  | some v => if ofGroup v then ".group".toList ++ suffix v ++ " .".toList else ['.']
  | none => ['.']

def back (variant selector : Option String) : List Char :=
  (match variant with
    | some v => if ofGroup v then [] else suffix v
    | none => []) ++ if selector.isSome then " > * + *".toList else []

theorem toList_place (selector : String) :
    (place Family.laterChildren selector).toList = selector.toList ++ " > * + *".toList := by
  have hcustom : Family.laterChildren.toList = '&' :: " > * + *".toList := by decide
  have hbare : replaceChar '&' selector.toList " > * + *".toList = " > * + *".toList := by
    simp [replaceChar]
  rw [place, String.toList_ofList, hcustom, replaceChar, List.flatMap_cons, if_pos rfl, ← replaceChar,
    hbare]

theorem toList_withVariant (token v : String) :
    (withVariant variants ("." ++ escapeClass token) v).toList =
      front (some v) ++ escape token.toList ++ back (some v) none := by
  by_cases hg : (after? groupMark.toList v.toList).isSome = true
  · simp [withVariant, front, back, ofGroup, suffix, escapeClass, hg]
  · simp [withVariant, front, back, ofGroup, suffix, escapeClass, hg]

theorem back_some (variant : Option String) (custom : String) :
    back variant (some custom) = back variant none ++ " > * + *".toList := by
  simp [back]

theorem toList_build {c : Context} (h : Stated c) (token : String) :
    (build variants token c).toList =
      front c.variant ++ escape token.toList ++ back c.variant c.selector := by
  have hplain : (build variants token { c with selector := none }).toList =
      front c.variant ++ escape token.toList ++ back c.variant none := by
    cases hv : c.variant with
    | none => simp [build, front, back, escapeClass]
    | some v => exact toList_withVariant token v
  have hselector : c.selector = none ∨ c.selector = some Family.laterChildren := by
    have hm := (List.pair_mem_product.1 h).2
    simpa using hm
  obtain ⟨breakpoint, mode, variant, selector⟩ := c
  rcases hselector with rfl | rfl
  · exact hplain
  · have hne : ¬ Family.laterChildren.isEmpty = true := by decide
    rw [build]
    dsimp only
    rw [if_neg hne, toList_place, back_some, ← List.append_assoc, ← hplain]
    rfl

theorem back_distinct : ∀ a ∈ states, ∀ b ∈ states, front a.1 = front b.1 →
    (readName (back a.1 a.2)).2 = (readName (back b.1 b.2)).2 → a = b := by
  decide +kernel

def frontState (variant : Option String) : List Char :=
  (front variant).drop 6

theorem front_cases : ∀ a ∈ states, front a.1 = ['.'] ∨
    front a.1 = '.' :: (escape "group".toList ++ frontState a.1) ∧ (front a.1).length = 14 ∧
      Stops (frontState a.1) ∧ frontState a.1 ≠ [] := by
  decide +kernel

theorem frontState_not_behind : ∀ a ∈ states, front a.1 ≠ ['.'] → ∀ b ∈ states,
    ¬ frontState a.1 <+: (readName (back b.1 b.2)).2 := by
  decide +kernel

variable {c d : Context} {s t : List Char}

theorem Stops.append {x : List Char} (h : Stops x) (hne : x ≠ []) (y : List Char) : Stops (x ++ y) := by
  obtain ⟨a, r, rfl⟩ := List.exists_cons_of_ne_nil hne
  exact h

theorem front_ne_of_group (hc : Stated c) (hd : Stated d) (hg : front c.variant ≠ ['.'])
    (hp : front d.variant = ['.']) :
    front c.variant ++ (escape s ++ back c.variant c.selector) ≠
      front d.variant ++ (escape t ++ back d.variant d.selector) := by
  intro h
  obtain ⟨hf, _, hstops, hne⟩ := (front_cases _ hc).resolve_left hg
  rw [hf, hp, List.cons_append, List.singleton_append, List.cons_inj_right, List.append_assoc] at h
  have hr := congrArg readName h
  rw [readName_escape, readName_escape, readName_of_stops (hstops.append hne _)] at hr
  have hbehind : frontState c.variant ++ (escape s ++ back c.variant c.selector) =
      (readName (back d.variant d.selector)).2 := congrArg Prod.snd hr
  exact frontState_not_behind _ hc hg _ hd ⟨_, hbehind⟩

theorem front_eq (hc : Stated c) (hd : Stated d)
    (h : front c.variant ++ (escape s ++ back c.variant c.selector) =
      front d.variant ++ (escape t ++ back d.variant d.selector)) :
    front c.variant = front d.variant := by
  rcases front_cases _ hc with hp | ⟨_, hlen, _⟩
  · by_cases hq : front d.variant = ['.']
    · rw [hp, hq]
    · exact absurd h.symm (front_ne_of_group hd hc hq hp)
  · have hg : front c.variant ≠ ['.'] := fun he => by
      rw [he] at hlen
      cases hlen
    rcases front_cases _ hd with hq | ⟨_, hlen', _⟩
    · exact absurd h (front_ne_of_group hc hd hg hq)
    · exact (List.append_inj h (hlen.trans hlen'.symm)).1

theorem build_injective {token other : String} (hc : Stated c) (hd : Stated d)
    (h : build variants token c = build variants other d) :
    token = other ∧ c.variant = d.variant ∧ c.selector = d.selector := by
  rw [← String.toList_inj, toList_build hc, toList_build hd, List.append_assoc, List.append_assoc] at h
  have hf := front_eq hc hd h
  rw [hf, List.append_cancel_left_eq] at h
  have hr := congrArg readName h
  rw [readName_escape, readName_escape, Prod.mk.injEq] at hr
  have hstate := back_distinct _ hc _ hd hf hr.2
  rw [Prod.mk.injEq] at hstate
  rw [hstate.1, hstate.2, List.append_cancel_right_eq, String.toList_inj] at hr
  exact ⟨hr.1, hstate⟩

theorem head?_build (token : String) (hc : Stated c) :
    (build variants token c).toList.head? = some '.' := by
  rw [toList_build hc]
  rcases front_cases _ hc with hf | ⟨hf, _⟩ <;> rw [hf] <;> rfl

end UtilityCss.Selector
