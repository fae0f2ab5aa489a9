import UtilityCss.Proofs.Number.Numeral
import UtilityCss.Proofs.Text.Trim
import UtilityCss.Utility.Value

namespace UtilityCss.Value

open Text Number

/-- A number that is not zero, perhaps with a unit, and perhaps with a line feed behind it. -/
def Measure (value : String) : Prop :=
  ∃ number, ∃ unit ∈ "" :: signedUnits, ∃ ending ∈ [[], ['\n']],
    value.toList = number ++ unit.toList ++ ending ∧ Numeral number ∧ (Binary64.ofNumeral number).isZero = false

theorem units_stop : ∀ unit ∈ "" :: signedUnits,
    (∀ c ∈ unit.toList.head?, isDecimalDigit c = false ∧ c ≠ '.') ∧ '\n' ∉ unit.toList := by
  have hheads : ∀ unit ∈ "" :: signedUnits,
      (unit.toList.head?.all fun c => !isDecimalDigit c && c != '.') = true ∧ '\n' ∉ unit.toList := by
    decide +kernel
  intro unit hu
  refine ⟨fun c hc => ?_, (hheads unit hu).2⟩
  have hall := (hheads unit hu).1
  rw [hc] at hall
  simpa using hall

theorem measure?_eq_some_iff {value unit : String} {number : List Char} (hu : unit ∈ "" :: signedUnits) :
    measure? value = some (number, unit) ↔
      Numeral number ∧ ∃ ending ∈ [[], ['\n']], value.toList = number ++ unit.toList ++ ending := by
  rw [measure?, Option.map_eq_some_iff]
  constructor
  · rintro ⟨⟨n, rest⟩, hn, he⟩
    cases he
    obtain ⟨hcs, hnumber⟩ := numeral?_eq_some hn
    obtain ⟨ending, hending, hvalue⟩ := exists_ending value.toList
    rw [hcs] at hvalue
    exact ⟨hnumber, ending, hending, by rw [String.toList_ofList]; exact hvalue⟩
  · rintro ⟨hnumber, ending, hending, hvalue⟩
    obtain ⟨hstop, hline⟩ := units_stop unit hu
    have hnot : '\n' ∉ number ++ unit.toList := by
      have hnewline : isDecimalDigit '\n' = false := by decide
      rw [List.mem_append, not_or]
      refine ⟨fun hm => ?_, hline⟩
      rcases hnumber.chars _ hm with hd | hp
      · rw [hnewline] at hd
        cases hd
      · exact absurd hp (by decide)
    refine ⟨(number, unit.toList), ?_, by rw [String.ofList_toList]⟩
    rw [hvalue, dropFinalNewline_of_not_mem hnot hending, hnumber.numeral?_append hstop]

theorem measure_iff (value : String) :
    Measure value ↔ ∃ number unit, measure? value = some (number, unit) ∧ unit ∈ "" :: signedUnits ∧
      (Binary64.ofNumeral number).isZero = false := by
  constructor
  · rintro ⟨number, unit, hu, ending, he, hvalue, hnumber, hzero⟩
    exact ⟨number, unit, (measure?_eq_some_iff hu).2 ⟨hnumber, ending, he, hvalue⟩, hu, hzero⟩
  · rintro ⟨number, unit, hm, hu, hzero⟩
    obtain ⟨hnumber, ending, he, hvalue⟩ := (measure?_eq_some_iff hu).1 hm
    exact ⟨number, unit, hu, ending, he, hvalue, hnumber, hzero⟩

theorem negate_of_measure {value : String} (h : Measure value) : negate value = "-" ++ value := by
  obtain ⟨number, unit, hm, hu, hzero⟩ := (measure_iff value).1 h
  have hunit : (unit.isEmpty || signedUnits.contains unit) = true := by
    rcases List.mem_cons.1 hu with rfl | hu
    · rfl
    · rw [List.contains_iff_mem.2 hu, Bool.or_true]
  rw [negate, hm]
  dsimp only
  rw [if_pos]
  rw [hunit, hzero]
  rfl

theorem negate_of_not_measure {value : String} (h : ¬ Measure value) : negate value = value := by
  rw [negate]
  split
  · rename_i number unit hm
    rw [if_neg]
    intro hc
    apply h
    simp only [Bool.and_eq_true, Bool.or_eq_true, String.isEmpty_iff, List.contains_iff_mem,
      Bool.not_eq_true'] at hc
    exact (measure_iff value).2 ⟨number, unit, hm, List.mem_cons.2 hc.1, hc.2⟩
  · rfl

theorem negate_eq_iff (value : String) : negate value = "-" ++ value ↔ Measure value := by
  constructor
  · intro h
    by_contra hm
    have hlength := congrArg String.length ((negate_of_not_measure hm).symm.trans h)
    rw [String.length_append] at hlength
    have hminus : "-".length = 1 := rfl
    omega
  · exact negate_of_measure

example : negate "4px\n" = "-4px\n" ∧ negate "0.0rem" = "0.0rem" ∧ negate "1fr" = "1fr" := by
  decide +kernel

end UtilityCss.Value
