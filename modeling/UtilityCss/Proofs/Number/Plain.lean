import UtilityCss.Color.Hex
import UtilityCss.Proofs.Stylesheet.Reading
import UtilityCss.Utility.Value

namespace UtilityCss

open Text Number Stylesheet

def Plain (text : List Char) : Prop :=
  ∀ c ∈ text, c ∉ '\n' :: marks

instance (text : List Char) : Decidable (Plain text) :=
  inferInstanceAs (Decidable (∀ c ∈ text, c ∉ '\n' :: marks))

namespace Plain

variable {a b : List Char}

theorem inert (h : Plain a) : Inert a :=
  fun c hc hm => h c hc (List.mem_cons_of_mem _ hm)

theorem append (ha : Plain a) (hb : Plain b) : Plain (a ++ b) :=
  List.forall_mem_append.2 ⟨ha, hb⟩

theorem cons {c : Char} (hc : c ∉ '\n' :: marks) (h : Plain a) : Plain (c :: a) :=
  List.forall_mem_cons.2 ⟨hc, h⟩

theorem subset (h : Plain b) (hs : a ⊆ b) : Plain a :=
  fun c hc => h c (hs hc)

theorem of_class {p : Char → Bool} (hp : ∀ d ∈ '\n' :: marks, p d = false) (h : ∀ c ∈ a, p c = true) :
    Plain a :=
  fun c hc => not_mem_of_class hp (h c hc)

theorem digits (h : ∀ c ∈ a, isDigitLike c = true) : Plain a :=
  of_class (by decide +kernel) h

theorem decimals (h : ∀ c ∈ a, isDecimalDigit c = true) : Plain a :=
  digits fun c hc => by rw [isDigitLike, h c hc, Bool.true_or]

theorem digitText (h : isDigitText a = true) : Plain a := by
  rw [isDigitText, Bool.and_eq_true, List.all_eq_true] at h
  exact digits h.2

theorem zeros (n : Nat) : Plain (List.replicate n '0') := by
  intro c hc
  rw [List.eq_of_mem_replicate hc]
  decide

theorem decimal (n : Nat) : Plain (Text.decimal n) := by
  have hp : ∀ d ∈ '\n' :: marks, d.isDigit = false := by decide
  exact of_class hp fun c hc => Nat.isDigit_of_mem_toDigits (by decide) (by decide) hc

theorem trimZeros (h : Plain a) : Plain (Number.trimZeros a) := by
  have hs : a.reverse.dropWhile (· == '0') ⊆ a.reverse := (List.dropWhile_sublist _).subset
  rw [Number.trimZeros]
  exact h.subset fun c hc => List.mem_reverse.1 (hs (List.mem_reverse.1 hc))

theorem take (h : Plain a) (n : Nat) : Plain (a.take n) :=
  h.subset (List.take_subset n a)

theorem drop (h : Plain a) (n : Nat) : Plain (a.drop n) :=
  h.subset (List.drop_subset n a)

theorem withFraction (ha : Plain a) (hb : Plain b) : Plain (Number.withFraction a b) := by
  rw [Number.withFraction]
  split
  · exact ha
  · exact ha.append (hb.cons (by decide))

theorem padLeft (width : Nat) (h : Plain a) : Plain (Number.padLeft width a) :=
  (zeros _).append h

theorem exponentText (e : Int) : Plain (Number.exponentText e) := by
  rw [Number.exponentText]
  refine cons (by decide) (cons ?_ (padLeft 2 (decimal _)))
  split <;> decide

theorem write (layout : Layout) (h : Plain a) (e : Int) : Plain (layout.write a e) := by
  rw [Layout.write]
  split
  · split
    · exact withFraction (by decide) ((zeros _).append h)
    · refine withFraction ((h.take _).append (zeros _)) ?_
      split
      · decide
      · exact h.drop _
  · exact (withFraction (h.take 1) (h.drop 1)).append (exponentText e)

theorem signText (negative : Bool) (h : Plain a) : Plain (Number.signText negative a) := by
  cases negative
  · exact h
  · exact h.cons (by decide)

theorem infinityText (negative : Bool) : Plain (Number.infinityText negative) := by
  cases negative <;> decide

theorem general (x : Binary64) : Plain (Number.general x) := by
  cases x with
  | nan => decide
  | infinite s => exact infinityText s
  | finite s m e =>
    rw [Number.general]
    split
    · exact signText s (by decide)
    · exact signText s (write _ (trimZeros (decimal _)) _)

theorem fixed (places : Nat) (x : Binary64) : Plain (Number.fixed places x) := by
  cases x with
  | nan => exact (by decide : Plain nanText)
  | infinite s => exact infinityText s
  | finite s m e =>
    have hd (n : Nat) : Plain (Number.padLeft (places + 1) (Text.decimal n)) := padLeft _ (decimal n)
    exact signText s (withFraction ((hd _).take _) ((hd _).drop _))

theorem numberText (x : Binary64) : Plain (Value.numberText x).toList := by
  rw [Value.numberText, String.toList_ofList]
  exact general _

theorem percent {n d : Nat} {s : String} (h : Value.percent n d = .ok s) : Plain s.toList := by
  rw [Value.percent] at h
  split at h
  · cases h
  · cases h
    rw [String.toList_ofList]
    refine append ?_ (by decide)
    have ht := trimZeros (fixed 6 ((Binary64.ofRatio false (n, d)).scale (100, 1)))
    split
    · exact ht.subset (List.dropLast_subset _)
    · exact ht

theorem rgba (r g b : Nat) (alpha : Binary64) : Plain (Color.rgba r g b alpha).toList := by
  have hd (n : Nat) : Plain (toString n).toList := by
    rw [Nat.toString_eq_repr, Nat.toList_repr]
    exact decimal n
  have ha : Plain (Color.alphaText alpha).toList := by
    rw [Color.alphaText, String.toList_ofList]
    exact general _
  have hcomma : Plain ", ".toList := by decide
  simp only [Color.rgba, String.toList_append]
  refine append (append (append (append (append (append (append (append ?_ (hd r)) hcomma) (hd g)) hcomma)
    (hd b)) hcomma) ha) ?_ <;> decide

end Plain

end UtilityCss
