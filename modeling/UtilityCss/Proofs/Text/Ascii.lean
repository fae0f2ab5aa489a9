import UtilityCss.Text.Digit

namespace UtilityCss.Text

theorem ascii_induction {P : Char → Prop} (h : ∀ n : Fin 128, P (Char.ofNat n)) {c : Char} (hc : c.toNat < 128) :
    P c := by
  have hchar := h ⟨c.toNat, hc⟩
  rwa [Char.ofNat_toNat] at hchar

theorem toNat_lt_of_isHexDigit {c : Char} (h : isHexDigit c = true) : c.toNat < 128 := by
  have hbelow {d : Char} (hd : d.toNat < 128) (hc : c ≤ d) : c.toNat < 128 := Nat.lt_of_le_of_lt hc hd
  simp only [isHexDigit, Bool.or_eq_true, Bool.and_eq_true, decide_eq_true_eq] at h
  rcases h with (⟨_, h⟩ | ⟨_, h⟩) | ⟨_, h⟩
  · exact hbelow (by decide) h
  · exact hbelow (by decide) h
  · exact hbelow (by decide) h

end UtilityCss.Text
