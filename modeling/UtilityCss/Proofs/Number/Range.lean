import Mathlib.Algebra.Order.Group.Nat
import Mathlib.Tactic.Common
import UtilityCss.Number.Binary64

namespace UtilityCss.Number

theorem roundHalfEven_eq_iff {n d k : Nat} (hd : 0 < d) (hk : k % 2 = 0) (h : n < k * d) :
    roundHalfEven n d = k ↔ (2 * k - 1) * d ≤ 2 * n := by
  have hlt : n / d < k := (Nat.div_lt_iff_lt_mul hd).2 h
  have hpos : 0 < k := Nat.zero_lt_of_lt hlt
  have hn := Nat.div_add_mod n d
  have hr := Nat.mod_lt n hd
  have hexpand : (2 * k - 1) * d + d = 2 * (k * d) := by
    rw [← Nat.succ_mul, ← Nat.mul_assoc]
    congr 1
    omega
  rw [roundHalfEven]
  generalize n / d = q at *
  generalize n % d = r at *
  by_cases hq : q + 1 = k
  -- The number before an even one is odd, so a tie goes up from there.
  · have htop : k * d = d * q + d := by rw [← hq, Nat.succ_mul, Nat.mul_comm]
    split
    · omega
    · split <;> omega
  · have hbelow : d * q + 2 * d ≤ k * d := by
      rw [Nat.mul_comm d, ← Nat.add_mul]
      exact Nat.mul_le_mul_right d (by omega)
    split
    · omega
    · split <;> omega

namespace Binary64

/-- The least whole ratio that is rounded past the greatest finite number: half a unit of the last place
beyond it. -/
def limit : Nat :=
  (2 ^ 54 - 1) * 2 ^ 970

variable {n d : Nat}

theorem shift_neg (e : Nat) : shift 2 (-(e : Int)) (n, d) = (n, d * 2 ^ e) := by
  have hneg : (-(e : Int)).toNat = 0 := by omega
  have hpos : (- -(e : Int)).toNat = e := by omega
  rw [shift, hneg, hpos]
  exact Prod.ext (Nat.mul_one n) rfl

theorem exponentFor_spec (hn : n ≠ 0) (hd : d ≠ 0) {g : Nat} (hg : n.log2 = d.log2 + 53 + g) :
    ∃ e : Nat, exponentFor (n, d) = e ∧ 2 ^ 52 * (d * 2 ^ e) ≤ n ∧ n < 2 ^ 53 * (d * 2 ^ e) := by
  have hguess : (n.log2 : Int) - d.log2 - 53 = g := by omega
  have hnlow : 2 ^ n.log2 ≤ n := Nat.log2_self_le hn
  have hnhigh : n < 2 ^ (n.log2 + 1) := Nat.lt_log2_self
  have hdlow : 2 ^ d.log2 ≤ d := Nat.log2_self_le hd
  have hdhigh : d < 2 ^ (d.log2 + 1) := Nat.lt_log2_self
  have hD : 0 < d * 2 ^ g := Nat.mul_pos (Nat.pos_of_ne_zero hd) (Nat.two_pow_pos g)
  have hlow : 2 ^ 52 * (d * 2 ^ g) ≤ n := by
    have hp : 2 ^ n.log2 = 2 ^ 52 * (2 ^ (d.log2 + 1) * 2 ^ g) := by
      rw [hg, ← Nat.pow_add, ← Nat.pow_add]
      congr 1
      omega
    have hm := Nat.mul_le_mul_left (2 ^ 52) (Nat.mul_le_mul_right (2 ^ g) (Nat.le_of_lt hdhigh))
    omega
  have hhigh : n < 2 ^ 53 * (d * 2 ^ (g + 1)) := by
    have hp : 2 ^ (n.log2 + 1) = 2 ^ 53 * (2 ^ d.log2 * 2 ^ (g + 1)) := by
      rw [hg, ← Nat.pow_add, ← Nat.pow_add]
      congr 1
      omega
    have hm := Nat.mul_le_mul_left (2 ^ 53) (Nat.mul_le_mul_right (2 ^ (g + 1)) hdlow)
    omega
  rw [exponentFor]
  dsimp only
  rw [hguess, shift_neg]
  -- The guess leaves 53 or 54 bits, and one more exponent takes the last of 54 off.
  by_cases hc : Nat.pow 2 53 ≤ n / (d * 2 ^ g)
  · refine ⟨g + 1, ?_, ?_, hhigh⟩
    · rw [if_pos hc]
      omega
    · have hc' : 2 ^ 53 * (d * 2 ^ g) ≤ n := (Nat.le_div_iff_mul_le hD).1 hc
      have htwo : d * 2 ^ (g + 1) = 2 * (d * 2 ^ g) := by rw [Nat.pow_succ', Nat.mul_left_comm]
      omega
  · refine ⟨g, ?_, hlow, ?_⟩
    · rw [if_neg hc]
      omega
    · exact (Nat.div_lt_iff_lt_mul hD).1 (Nat.lt_of_not_le hc)

theorem pack_eq_infinite_iff (negative : Bool) (m : Nat) (e : Int) :
    (∃ s, pack negative m e = infinite s) ↔ 971 < e := by
  rw [pack]
  split <;> simp [*]

theorem ofRatio_eq_infinite_iff (hn : n ≠ 0) :
    (∃ s, ofRatio false (n, d) = infinite s) ↔
      971 < exponentFor (n, d) ∨ exponentFor (n, d) = 971 ∧
        roundHalfEven (shift 2 (-exponentFor (n, d)) (n, d)).1 (shift 2 (-exponentFor (n, d)) (n, d)).2 =
          2 ^ 53 := by
  have htop : Nat.pow 2 53 = 2 ^ 53 := rfl
  rw [ofRatio]
  dsimp only
  rw [if_neg hn, htop]
  split
  · rw [pack_eq_infinite_iff]
    omega
  · rw [pack_eq_infinite_iff]
    omega

theorem exponentFor_nonpos (h : n.log2 < d.log2 + 53) : exponentFor (n, d) ≤ 0 := by
  rw [exponentFor]
  dsimp only
  split <;> omega

theorem lt_of_log2_lt (hd : d ≠ 0) (h : n.log2 < d.log2 + 53) : n < 2 ^ 53 * d := by
  have hn : n < 2 ^ (n.log2 + 1) := Nat.lt_log2_self
  have hpow : 2 ^ (n.log2 + 1) ≤ 2 ^ 53 * 2 ^ d.log2 := by
    rw [← Nat.pow_add]
    exact Nat.pow_le_pow_right (by decide) (by omega)
  have hm := Nat.mul_le_mul_left (2 ^ 53) (Nat.log2_self_le hd)
  omega

theorem mul_pow_le {a b : Nat} (h : a ≤ b) : d * 2 ^ a ≤ d * 2 ^ b :=
  Nat.mul_le_mul_left d (Nat.pow_le_pow_right (by decide) h)

theorem infinite_iff_limit_le (hd : d ≠ 0) :
    (∃ s, ofRatio false (n, d) = infinite s) ↔ limit * d ≤ n := by
  have hone (k : Nat) : d ≤ d * 2 ^ k := Nat.le_mul_of_pos_right d (Nat.two_pow_pos k)
  have hdouble (k : Nat) : d * 2 ^ (k + 1) = 2 * (d * 2 ^ k) := by rw [Nat.pow_succ', Nat.mul_left_comm]
  have hlimit : limit * d = (2 ^ 54 - 1) * (d * 2 ^ 970) := by
    rw [limit, Nat.mul_assoc, Nat.mul_comm _ d]
  have hle := hone 970
  rw [hlimit]
  by_cases hn : n = 0
  · have hz : ofRatio false (n, d) = zero false := if_pos hn
    rw [hz, zero]
    simp only [reduceCtorEq, exists_const, false_iff]
    generalize d * 2 ^ 970 = X at *
    omega
  rw [ofRatio_eq_infinite_iff hn]
  by_cases hg : n.log2 < d.log2 + 53
  · have he := exponentFor_nonpos hg
    have hlt := lt_of_log2_lt hd hg
    generalize d * 2 ^ 970 = X at *
    omega
  obtain ⟨g, hg⟩ := Nat.exists_eq_add_of_le (Nat.le_of_not_lt hg)
  obtain ⟨e, he, hlow, hhigh⟩ := exponentFor_spec hn hd hg
  have hD : 0 < d * 2 ^ e := Nat.mul_pos (Nat.pos_of_ne_zero hd) (Nat.two_pow_pos e)
  rw [he, shift_neg]
  dsimp only
  rw [roundHalfEven_eq_iff hD (by decide) hhigh]
  -- Below the last exponent the ratio is under the limit, above it over the limit.
  rcases Nat.lt_trichotomy e 971 with h | h | h
  · have hm : d * 2 ^ e ≤ d * 2 ^ 970 := mul_pow_le (by omega)
    generalize d * 2 ^ 970 = X at *
    omega
  · have htwo : d * 2 ^ e = 2 * (d * 2 ^ 970) := by rw [h, hdouble]
    generalize d * 2 ^ 970 = X at *
    omega
  · have hm : d * 2 ^ (970 + 1 + 1) ≤ d * 2 ^ e := mul_pow_le (by omega)
    rw [hdouble, hdouble] at hm
    generalize d * 2 ^ 970 = X at *
    omega

end Binary64

end UtilityCss.Number
