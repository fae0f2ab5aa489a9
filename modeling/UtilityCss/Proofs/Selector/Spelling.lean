import Mathlib.Data.List.Basic
import UtilityCss.Selector

namespace UtilityCss.Selector

open Text

def slashed : List Char :=
  ":[]/.\\%#(),!&@*+'\"=<>~?\x7b\x7d$^|;".toList

def spelledChar (name : List Char) (e : Char × Nat) : List Char :=
  if isDigitLike e.1 = true ∧ (e.2 = 0 ∨ e.2 = 1 ∧ name.head? = some '-') then ['\\', '3', e.1, ' ']
  else if e.1 ∈ slashed then ['\\', e.1]
  else [e.1]

def spelledName (name : List Char) : List Char :=
  name.zipIdx.flatMap (spelledChar name)

def spelledState (own variant : String) : String :=
  let suffix := (Vocabulary.variants.get? variant).getD (":" ++ variant)
  if "group-".toList <+: variant.toList then ".group" ++ suffix ++ " " ++ own else own ++ suffix

def spelled (token : String) (c : Context) : String :=
  let own := "." ++ String.ofList (spelledName token.toList)
  let stated := match c.variant with
    | some v => spelledState own v
    | none => own
  match c.selector with
  | none => stated
  | some custom =>
    if custom = "" then stated
    else String.ofList (custom.toList.flatMap fun ch => if ch = '&' then stated.toList else [ch])

theorem spelledChar_eq {name : List Char} {i : Nat} (leading : Bool)
    (h : leading = true ↔ i = 0 ∨ i = 1 ∧ name.head? = some '-') (c : Char) :
    spelledChar name (c, i) = escapeChar leading c := by
  have hmark : c ∈ slashed ↔ special.contains c = true := List.contains_iff_mem.symm
  rw [spelledChar, escapeChar]
  simp only [← h, hmark, Bool.and_eq_true, and_comm]

theorem flatMap_spelledChar {name : List Char} {k : Nat} (hk : 1 ≤ k) (h : name.head? = some '-' → 2 ≤ k)
    (cs : List Char) : (cs.zipIdx k).flatMap (spelledChar name) = cs.flatMap (escapeChar false) := by
  induction cs generalizing k with
  | nil => rfl
  | cons c cs ih =>
    have hlast : false = true ↔ k = 0 ∨ k = 1 ∧ name.head? = some '-' := by
      simp only [Bool.false_eq_true, false_iff, not_or, not_and]
      exact ⟨by omega, fun hk hn => absurd (h hn) (by omega)⟩
    rw [List.zipIdx_cons, List.flatMap_cons, List.flatMap_cons, spelledChar_eq false hlast,
      ih (Nat.le_succ_of_le hk) fun hn => Nat.le_succ_of_le (h hn)]

theorem spelledName_eq (name : List Char) : spelledName name = escape name := by
  have hyphen : escapeChar true '-' = ['-'] := by decide +kernel
  unfold escape
  split
  · rfl
  · rename_i d r
    rw [spelledName, List.zipIdx_cons, List.zipIdx_cons, List.flatMap_cons, List.flatMap_cons,
      spelledChar_eq true (by simp), spelledChar_eq true (by simp), hyphen,
      flatMap_spelledChar (by simp) (by simp)]
    rfl
  · rename_i c r hc
    have hrest : r.flatMap (escapeChar false) = (r.zipIdx 1).flatMap (spelledChar (c :: r)) := by
      cases r with
      | nil => rfl
      | cons d r =>
        refine (flatMap_spelledChar (Nat.le_refl 1) ?_ _).symm
        rintro ⟨⟩
        exact (hc d r rfl rfl).elim
    rw [spelledName, List.zipIdx_cons, List.flatMap_cons, spelledChar_eq true (by simp), hrest]

theorem spelledState_eq (own variant : String) :
    spelledState own variant = withVariant Vocabulary.variants own variant := by
  have hgroup : "group-".toList <+: variant.toList ↔
      (after? Vocabulary.groupMark.toList variant.toList).isSome = true := by
    simp only [Option.isSome_iff_exists, after?_eq_some_iff]
    exact ⟨fun ⟨r, h⟩ => ⟨r, h.symm⟩, fun ⟨r, h⟩ => ⟨r, h.symm⟩⟩
  simp only [spelledState, withVariant, hgroup]

theorem spelled_eq (token : String) (c : Context) : spelled token c = build Vocabulary.variants token c := by
  rw [spelled, build, spelledName_eq]
  simp only [spelledState_eq]
  cases c.selector with
  | none => rfl
  | some custom =>
    simp only [← String.isEmpty_iff]
    rfl

end UtilityCss.Selector
