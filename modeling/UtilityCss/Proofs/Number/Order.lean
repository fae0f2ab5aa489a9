import Mathlib.Algebra.Order.Ring.Rat
import Mathlib.Order.WithBot
import Mathlib.Tactic.Positivity
import UtilityCss.Proofs.Number.Numeral

namespace UtilityCss.Number

namespace Binary64

def ratio (negative : Bool) (m : Nat) (e : Int) : ℚ :=
  signed negative (magnitude m e).1 / ((magnitude m e).2 : ℤ)

def value : Binary64 → WithBot (WithTop ℚ)
  | nan => ⊥
  | infinite true => ⊥
  | infinite false => (⊤ : WithTop ℚ)
  | finite s m e => ((ratio s m e : ℚ) : WithTop ℚ)

theorem magnitude_pos (m : Nat) (e : Int) : 0 < (magnitude m e).2 := by
  rw [magnitude, shift, Nat.one_mul]
  exact Nat.pow_pos (by decide)

theorem signed_mul (s : Bool) (a b : Nat) : signed s (a * b) = signed s a * b := by
  cases s <;> simp [signed]

theorem le_finite_iff (s t : Bool) (m n : Nat) (e f : Int) :
    le (finite s m e) (finite t n f) = true ↔ ratio s m e ≤ ratio t n f := by
  have hx : (0 : ℚ) < ((magnitude m e).2 : ℤ) := by exact_mod_cast magnitude_pos m e
  have hy : (0 : ℚ) < ((magnitude n f).2 : ℤ) := by exact_mod_cast magnitude_pos n f
  rw [ratio, ratio, div_le_div_iff₀ hx hy, le, decide_eq_true_iff, signed_mul, signed_mul]
  exact_mod_cast Iff.rfl

theorem le_iff {x y : Binary64} (hx : x ≠ nan) (hy : y ≠ nan) : x.le y = true ↔ x.value ≤ y.value := by
  match x, y with
  | finite s m e, finite t n f =>
    rw [le_finite_iff]
    simp [value]
  | infinite true, infinite true => simp [le, value]
  | infinite true, infinite false => simp [le, value]
  | infinite false, infinite true => simp [le, value]
  | infinite false, infinite false => simp [le, value]
  | infinite true, finite _ _ _ => simp [le, value]
  | infinite false, finite _ _ _ => simp [le, value]
  | finite _ _ _, infinite true => simp [le, value]
  | finite _ _ _, infinite false => simp [le, value]

theorem le_or_le {x y : Binary64} (hx : x ≠ nan) (hy : y ≠ nan) : (x.le y || y.le x) = true := by
  rw [Bool.or_eq_true, le_iff hx hy, le_iff hy hx]
  exact le_total _ _

theorem le_of_le_of_le {x y z : Binary64} (hx : x ≠ nan) (hy : y ≠ nan) (hz : z ≠ nan) (hxy : x.le y = true)
    (hyz : y.le z = true) : x.le z = true := by
  rw [le_iff hx hz]
  exact ((le_iff hx hy).1 hxy).trans ((le_iff hy hz).1 hyz)

theorem ofRatio_ne_nan (s : Bool) (r : Nat × Nat) : ofRatio s r ≠ nan := by
  rw [ofRatio, zero]
  simp only [pack]
  split
  · nofun
  · split <;> split <;> nofun

theorem ofDecimal_ne_nan (s : Bool) (digits : Nat) (e : Int) : ofDecimal s digits e ≠ nan := by
  rw [ofDecimal, zero]
  split
  · nofun
  split
  · nofun
  split
  · nofun
  · exact ofRatio_ne_nan _ _

end Binary64

open Text

theorem mem_trimBy {p : Char → Bool} {cs : List Char} {c : Char} (h : c ∈ trimBy p cs) : c ∈ cs := by
  rw [trimBy, List.mem_reverse] at h
  have hr := List.mem_reverse.1 ((List.dropWhile_sublist _).subset h)
  exact (List.dropWhile_sublist _).subset hr

theorem mem_splitSign {cs : List Char} {c : Char} (h : c ∈ (splitSign cs).2) : c ∈ cs := by
  rw [splitSign.eq_def] at h
  split at h
  · exact List.mem_cons_of_mem _ h
  · exact List.mem_cons_of_mem _ h
  · exact h

theorem unsigned?_ne_nan (s : Bool) (cs : List Char) : unsigned? s cs ≠ some .nan := by
  intro h
  simp only [unsigned?, Option.ite_none_left_eq_some, Option.map_eq_some_iff] at h
  obtain ⟨_, e, _, he⟩ := h
  exact Binary64.ofDecimal_ne_nan _ _ _ he

theorem ofNumeral_ne_nan {cs : List Char} (h : ∀ c ∈ cs, c.toLower ≠ 'n') :
    Binary64.ofNumeral cs ≠ .nan := by
  rw [Binary64.ofNumeral]
  intro hn
  obtain ⟨x, hx⟩ | hx := (Binary64.ofText? cs).eq_none_or_eq_some.symm
  · rw [hx, Option.getD_some] at hn
    rw [hn, Binary64.ofText?] at hx
    dsimp only at hx
    split at hx
    · cases hx
    split at hx
    · rename_i hname
      have hl : ((splitSign (trimBy isNumberBlank cs)).2.map Char.toLower) = ['n', 'a', 'n'] := by
        rw [← String.toList_inj, String.toList_ofList] at hname
        exact hname
      obtain ⟨c, hc, hcl⟩ := List.mem_map.1 (hl ▸ List.mem_cons_self .. : 'n' ∈ _)
      exact h c (mem_trimBy (mem_splitSign hc)) hcl
    · obtain ⟨body, _, hb⟩ := Option.bind_eq_some_iff.1 hx
      exact unsigned?_ne_nan _ _ hb
  · rw [hx] at hn
    cases hn

theorem toLower_eq_n {c : Char} (h : c.toLower = 'n') : c = 'n' ∨ c = 'N' := by
  unfold Char.toLower at h
  split at h
  · have hv : c.val + 32 = 110 := congrArg Char.val h
    have hc : c.val = 78 := by grind
    exact Or.inr (Char.ext hc)
  · exact Or.inl h

theorem ofNumeral_numeral?_ne_nan {cs number rest : List Char} (h : numeral? cs = some (number, rest)) :
    Binary64.ofNumeral number ≠ .nan := by
  apply ofNumeral_ne_nan
  intro c hc hl
  have hn : c = 'n' ∨ c = 'N' := toLower_eq_n hl
  have hno : isDecimalDigit 'n' = false ∧ isDecimalDigit 'N' = false := by decide +kernel
  rcases (numeral?_eq_some h).2.chars c hc with hd | rfl
  · rcases hn with rfl | rfl
    · exact absurd hd (by simp [hno.1])
    · exact absurd hd (by simp [hno.2])
  · exact absurd hn (by decide)

end UtilityCss.Number
