import Mathlib.Data.List.TakeWhile
import UtilityCss.Proofs.Number.Range
import UtilityCss.Proofs.Outcome
import UtilityCss.Utility.Value

namespace UtilityCss.Value

open Text Number Outcome

def Unreadable (cs : List Char) : Prop :=
  (∃ c ∈ cs, isDecimalDigit c = false) ∨ digitLimit < cs.length

theorem length_takeWhile_eq_iff (cs : List Char) :
    (cs.takeWhile isDecimalDigit).length = cs.length ↔ ∀ c ∈ cs, isDecimalDigit c = true := by
  rw [← List.takeWhile_eq_self_iff]
  constructor
  · exact (List.takeWhile_sublist _).eq_of_length
  · exact congrArg List.length

theorem fails_whole_iff (cs : List Char) : Fails (whole cs) ↔ Unreadable cs := by
  have hle : (cs.takeWhile isDecimalDigit).length ≤ cs.length := (List.takeWhile_sublist _).length_le
  have hall := length_takeWhile_eq_iff cs
  rw [whole, Unreadable]
  split
  · simp only [fails_error, true_iff]
    right
    omega
  · split
    · rename_i heq
      simp only [not_fails_ok, false_iff, not_or, not_exists, not_and, Bool.not_eq_false]
      exact ⟨hall.1 heq, by omega⟩
    · rename_i heq
      simp only [fails_error, true_iff]
      left
      by_contra hnone
      apply heq
      apply hall.2
      intro c hc
      by_contra hd
      exact hnone ⟨c, hc, Bool.eq_false_iff.2 hd⟩

def RefusedCount (key : String) : Prop :=
  isDigitText key.toList = true ∧ Unreadable key.toList

theorem fails_isPositive_iff (key : String) : Fails (isPositive key) ↔ RefusedCount key := by
  rw [isPositive, RefusedCount]
  split
  · rename_i hd
    rw [fails_map, fails_whole_iff]
    simp [hd]
  · rename_i hd
    simp [hd]

theorem fails_percent_iff {n d : Nat} (hd : d ≠ 0) : Fails (percent n d) ↔ Binary64.limit * d ≤ n := by
  rw [← Binary64.infinite_iff_limit_le hd, percent]
  split
  · rename_i s hs
    simp [hs]
  · rename_i hne
    simp only [not_fails_ok, false_iff]
    rintro ⟨s, hs⟩
    exact hne s hs

/-- A key of two decimal numbers with a slash between them, of which one is too long to be read, or whose
quotient is too large. -/
def RefusedFraction (key : String) : Prop :=
  ∃ n d, fractionSides? key.toList = some (n, d) ∧
    (digitLimit < n.length ∨ digitLimit < d.length ∨
      ofDecimalDigits d ≠ 0 ∧ Binary64.limit * ofDecimalDigits d ≤ ofDecimalDigits n)

theorem decimal_of_fractionSides? {cs n d : List Char} (h : fractionSides? cs = some (n, d)) :
    (∀ c ∈ n, isDecimalDigit c = true) ∧ ∀ c ∈ d, isDecimalDigit c = true := by
  rw [fractionSides?] at h
  split at h
  · split at h
    · rename_i hs
      cases h
      simp only [Bool.and_eq_true, List.all_eq_true] at hs
      exact ⟨hs.1.1.2, hs.2⟩
    · cases h
  · cases h

theorem whole_of_decimal {cs : List Char} (h : ∀ c ∈ cs, isDecimalDigit c = true) :
    whole cs = if digitLimit < cs.length then .error (.tooManyDigits cs.length)
      else .ok (ofDecimalDigits cs) := by
  rw [whole, (length_takeWhile_eq_iff cs).2 h, if_pos rfl]

theorem fails_fraction?_iff (key : String) : Fails (fraction? key) ↔ RefusedFraction key := by
  rw [fraction?, RefusedFraction]
  cases hs : fractionSides? key.toList with
  | none => simp
  | some p =>
    obtain ⟨n, d⟩ := p
    obtain ⟨hn, hd⟩ := decimal_of_fractionSides? hs
    have hiff (P : List Char → List Char → Prop) :
        (∃ n' d', some (n, d) = some (n', d') ∧ P n' d') ↔ P n d := by simp
    rw [hiff]
    dsimp only
    rw [whole_of_decimal hn, whole_of_decimal hd]
    by_cases hnl : digitLimit < n.length
    · rw [if_pos hnl]
      exact iff_of_true (fails_error _) (.inl hnl)
    rw [if_neg hnl]
    by_cases hdl : digitLimit < d.length
    · rw [if_pos hdl]
      exact iff_of_true (fails_error _) (.inr (.inl hdl))
    rw [if_neg hdl]
    by_cases hz : ofDecimalDigits d = 0
    · simp [hnl, hdl, hz, bind, Except.bind, pure, Except.pure]
    · have hp := fails_percent_iff (n := ofDecimalDigits n) hz
      simp only [hnl, hdl, hz, false_or, ne_eq, not_false_eq_true, true_and, ← hp, bind, Except.bind,
        if_false]
      cases percent (ofDecimalDigits n) (ofDecimalDigits d) with
      | error e => exact iff_of_true (fails_error _) (fails_error _)
      | ok v => exact iff_of_false (not_fails_ok _) (not_fails_ok _)

theorem isDigitLike_of_isDigitText {key : String} (h : isDigitText key.toList = true) :
    ∀ c ∈ key.toList, isDigitLike c = true := by
  rw [isDigitText, Bool.and_eq_true, List.all_eq_true] at h
  exact h.2

theorem bracket?_of_isDigitText {key : String} (h : isDigitText key.toList = true) : bracket? key = none := by
  have hdigit := isDigitLike_of_isDigitText h
  rw [bracket?, if_neg]
  simp only [Bool.and_eq_true, decide_eq_true_eq, not_and]
  intro hhead
  have hmem : '[' ∈ key.toList := List.mem_of_mem_head? hhead.2
  have hno : isDigitLike '[' = false := by decide +kernel
  rw [hdigit _ hmem] at hno
  cases hno

end UtilityCss.Value
