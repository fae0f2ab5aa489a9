import Mathlib.Data.List.TakeWhile
import UtilityCss.Number.Reader

namespace UtilityCss.Number

open Text

inductive Numeral : List Char → Prop
  | whole {ds : List Char} (hn : ds ≠ []) (hd : ∀ c ∈ ds, isDecimalDigit c = true) : Numeral ds
  | fraction {ds es : List Char} (hd : ∀ c ∈ ds, isDecimalDigit c = true) (hn : es ≠ [])
      (he : ∀ c ∈ es, isDecimalDigit c = true) : Numeral (ds ++ '.' :: es)

variable {cs number rest : List Char}

theorem numeral?_eq_some (h : numeral? cs = some (number, rest)) : cs = number ++ rest ∧ Numeral number := by
  have hdigits (r : List Char) : ∀ c ∈ r.takeWhile isDecimalDigit, isDecimalDigit c = true :=
    fun c hc => List.mem_takeWhile_imp hc
  have hcs : cs.takeWhile isDecimalDigit ++ cs.dropWhile isDecimalDigit = cs := List.takeWhile_append_dropWhile
  rw [numeral?] at h
  dsimp only at h
  split at h
  · rename_i r hr
    split at h
    · split at h
      · cases h
      · rename_i hn
        cases h
        exact ⟨hcs.symm, .whole (by simpa using hn) (hdigits cs)⟩
    · rename_i hn
      cases h
      refine ⟨?_, .fraction (hdigits cs) (by simpa using hn) (hdigits r)⟩
      rw [List.append_assoc, List.cons_append, List.takeWhile_append_dropWhile, ← hr, hcs]
  · split at h
    · cases h
    · rename_i hn
      cases h
      exact ⟨hcs.symm, .whole (by simpa using hn) (hdigits cs)⟩

namespace Numeral

theorem chars (h : Numeral number) : ∀ c ∈ number, isDecimalDigit c = true ∨ c = '.' := by
  intro c hc
  cases h with
  | whole _ hd => exact .inl (hd c hc)
  | fraction hd _ he =>
    rcases List.mem_append.1 hc with hc | hc
    · exact .inl (hd c hc)
    · rcases List.mem_cons.1 hc with rfl | hc
      · exact .inr rfl
      · exact .inl (he c hc)

theorem numeral?_append (h : Numeral number)
    (hr : ∀ c ∈ rest.head?, isDecimalDigit c = false ∧ c ≠ '.') :
    numeral? (number ++ rest) = some (number, rest) := by
  have htake : rest.takeWhile isDecimalDigit = [] := by
    cases rest with
    | nil => rfl
    | cons c r => exact List.takeWhile_cons_of_neg (by simpa using (hr c rfl).1)
  have hdrop : rest.dropWhile isDecimalDigit = rest := by
    cases rest with
    | nil => rfl
    | cons c r => exact List.dropWhile_cons_of_neg (by simpa using (hr c rfl).1)
  cases h with
  | whole hn hd =>
    rw [numeral?, List.takeWhile_append_of_pos hd, List.dropWhile_append_of_pos hd, htake, hdrop, List.append_nil]
    cases rest with
    | nil => simp [hn]
    | cons c r =>
      have hc : c ≠ '.' := (hr c rfl).2
      simp [hn, hc]
  | @fraction ds es hd hn he =>
    have hpoint : isDecimalDigit '.' = false := by decide
    rw [numeral?, List.append_assoc, List.takeWhile_append_of_pos hd, List.dropWhile_append_of_pos hd,
      List.cons_append, List.takeWhile_cons_of_neg (by simp [hpoint]), List.dropWhile_cons_of_neg (by simp [hpoint]),
      List.append_nil]
    simp only [List.takeWhile_append_of_pos he, List.dropWhile_append_of_pos he, htake, hdrop, List.append_nil]
    simp [hn]

end Numeral

end UtilityCss.Number
