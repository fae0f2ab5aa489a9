import Mathlib.Data.List.Basic
import UtilityCss.Proofs.Text.Trim
import UtilityCss.Selector

namespace UtilityCss.Selector

open Text

def readName : List Char → List Char × List Char
  | '\\' :: '3' :: d :: ' ' :: r => (d :: (readName r).1, (readName r).2)
  | '\\' :: c :: r => (c :: (readName r).1, (readName r).2)
  | c :: r => if special.contains c then ([], c :: r) else (c :: (readName r).1, (readName r).2)
  | [] => ([], [])

def Stops (x : List Char) : Prop :=
  ∀ c ∈ x.head?, special.contains c = true ∧ c ≠ '\\'

instance (x : List Char) : Decidable (Stops x) :=
  inferInstanceAs (Decidable (∀ c ∈ x.head?, _))

theorem readName_of_stops {x : List Char} (h : Stops x) : readName x = ([], x) := by
  cases x with
  | nil => rfl
  | cons c r =>
    obtain ⟨hs, hb⟩ := h c rfl
    rw [readName]
    · rw [if_pos hs]
    · rintro d r' rfl
      exact absurd rfl hb
    · rintro d r' rfl
      exact absurd rfl hb

theorem readName_escapeChar (c : Char) (r : List Char) :
    readName (escapeChar false c ++ r) = (c :: (readName r).1, (readName r).2) := by
  have hthree : special.contains '3' = false := by decide
  have hslash : special.contains '\\' = true := by decide
  rw [escapeChar, Bool.false_and, if_neg (by simp)]
  by_cases hs : special.contains c = true
  · rw [if_pos hs, List.cons_append, List.cons_append, List.nil_append, readName]
    rintro d r' rfl
    rw [hthree] at hs
    cases hs
  · rw [if_neg hs, List.cons_append, List.nil_append, readName, if_neg hs]
    · rintro d r' rfl
      exact absurd hslash hs
    · rintro d r' rfl
      exact absurd hslash hs

theorem readName_leading (c : Char) (r : List Char) :
    readName (escapeChar true c ++ r) = (c :: (readName r).1, (readName r).2) := by
  by_cases hd : isDigitLike c = true
  · rw [escapeChar, hd, Bool.and_self, if_pos rfl]
    rfl
  · have he : escapeChar true c = escapeChar false c := by simp [escapeChar, hd]
    rw [he, readName_escapeChar]

theorem readName_flatMap (cs x : List Char) :
    readName (cs.flatMap (escapeChar false) ++ x) = (cs ++ (readName x).1, (readName x).2) := by
  induction cs with
  | nil => rfl
  | cons c cs ih => rw [List.flatMap_cons, List.append_assoc, readName_escapeChar, ih]; rfl

theorem readName_escape (name x : List Char) :
    readName (escape name ++ x) = (name ++ (readName x).1, (readName x).2) := by
  rw [escape.eq_def]
  split
  · rfl
  · rename_i d r
    have hminus : escapeChar false '-' = ['-'] := by decide
    have hm (y : List Char) := readName_escapeChar '-' y
    rw [hminus] at hm
    rw [List.append_assoc, ← List.singleton_append, List.append_assoc, hm, readName_leading,
      readName_flatMap]
    rfl
  · rw [List.append_assoc, readName_leading, readName_flatMap]
    rfl

theorem mem_of_mem_escapeChar {leading : Bool} {c x : Char} (h : x ∈ escapeChar leading c) :
    x = c ∨ x ∈ ['\\', '3', ' '] := by
  rw [escapeChar] at h
  split at h
  · simp only [List.mem_cons, List.not_mem_nil, or_false] at h ⊢
    tauto
  · split at h
    · simp only [List.mem_cons, List.not_mem_nil, or_false] at h ⊢
      tauto
    · exact .inl (List.mem_singleton.1 h)

theorem mem_of_mem_escape {name : List Char} {x : Char} (h : x ∈ escape name) :
    x ∈ name ∨ x ∈ ['\\', '3', ' '] := by
  have hrest {cs : List Char} (h : x ∈ cs.flatMap (escapeChar false)) : x ∈ cs ∨ x ∈ ['\\', '3', ' '] := by
    obtain ⟨c, hc, hx⟩ := List.mem_flatMap.1 h
    refine (mem_of_mem_escapeChar hx).imp_left ?_
    rintro rfl
    exact hc
  rw [escape.eq_def] at h
  split at h
  · exact .inl h
  · rename_i d r
    rcases List.mem_append.1 h with h | h
    · rcases List.mem_cons.1 h with rfl | h
      · exact .inl (List.mem_cons_self ..)
      · exact (mem_of_mem_escapeChar h).imp_left fun he => by simp [he]
    · exact (hrest h).imp_left fun hm => by simp [hm]
  · rename_i c r _
    rcases List.mem_append.1 h with h | h
    · exact (mem_of_mem_escapeChar h).imp_left fun he => by simp [he]
    · exact (hrest h).imp_left (List.mem_cons_of_mem c)

end UtilityCss.Selector
