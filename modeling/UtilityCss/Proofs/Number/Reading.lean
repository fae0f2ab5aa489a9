import UtilityCss.Proofs.Number.Order

namespace UtilityCss.Number

open Text

theorem isBlank_of_digit {c : Char} (h : isDecimalDigit c = true) : isBlank c = false := by
  have hapart : ∀ r ∈ blankRanges, ∀ z ∈ decimalZeros, r.2 < z ∨ z + 10 ≤ r.1 := by decide
  obtain ⟨n, hn⟩ := Option.isSome_iff_exists.1 h
  obtain ⟨z, hz, _⟩ := Option.map_eq_some_iff.1 hn
  have hzm := List.mem_of_find?_eq_some hz
  have hzc : z ≤ c.toNat ∧ c.toNat < z + 10 := by simpa using List.find?_some hz
  rw [isBlank, inRanges, List.any_eq_false]
  intro r hr
  have := hapart r hr z hzm
  simp only [Bool.and_eq_true, decide_eq_true_eq]
  omega

theorem dropUnderscores?_of_not_mem {cs : List Char} (h : '_' ∉ cs) (afterDigit : Bool) :
    dropUnderscores? afterDigit cs = some cs := by
  induction cs generalizing afterDigit with
  | nil => rfl
  | cons c cs ih =>
    rw [List.mem_cons, not_or] at h
    rw [dropUnderscores?.eq_def]
    dsimp only
    rw [if_neg (Ne.symm h.1), ih h.2, Option.map_some]

theorem trimBy_of_forall_not {p : Char → Bool} {cs : List Char} (h : ∀ c ∈ cs, p c = false) :
    trimBy p cs = cs := by
  have hdrop (xs : List Char) (hx : ∀ c ∈ xs, p c = false) : xs.dropWhile p = xs := by
    cases xs with
    | nil => rfl
    | cons c r => exact List.dropWhile_cons_of_neg (by simpa using hx c (List.mem_cons_self ..))
  rw [trimBy, hdrop cs h, hdrop _ (by simpa using h), List.reverse_reverse]

theorem ofText?_eq_unsigned? {cs : List Char} (h : ∀ c ∈ cs, isDecimalDigit c = true ∨ c = '.') :
    Binary64.ofText? cs = unsigned? false cs := by
  have hno : ∀ c ∈ ['-', '+', '_', 'n', 'N'], c ∉ cs := by
    have hnot : ∀ c ∈ ['-', '+', '_', 'n', 'N'], ¬ (isDecimalDigit c = true ∨ c = '.') := by decide +kernel
    exact fun c hc hm => hnot c hc (h c hm)
  have hblank : ∀ c ∈ cs, isNumberBlank c = false := by
    intro c hc
    rcases h c hc with hd | rfl
    · rw [isNumberBlank, isBlank_of_digit hd, Bool.false_and]
    · decide
  have hsign : splitSign cs = (false, cs) := by
    rw [splitSign.eq_def]
    split
    · exact absurd (List.mem_cons_self ..) (hno '-' (by simp))
    · exact absurd (List.mem_cons_self ..) (hno '+' (by simp))
    · rfl
  have hname (word : String) (hw : 'n' ∈ word.toList) : String.ofList (cs.map Char.toLower) ≠ word := by
    intro he
    rw [← he, String.toList_ofList] at hw
    obtain ⟨c, hc, hl⟩ := List.mem_map.1 hw
    rcases toLower_eq_n hl with rfl | rfl
    · exact hno 'n' (by simp) hc
    · exact hno 'N' (by simp) hc
  rw [Binary64.ofText?, trimBy_of_forall_not hblank, hsign]
  simp only [hname "inf" (by decide), hname "infinity" (by decide), hname "nan" (by decide), decide_false,
    Bool.or_self, Bool.false_eq_true, if_false, dropUnderscores?_of_not_mem (hno '_' (by simp)), Option.bind_some]

theorem takeWhile_digits {ds : List Char} (h : ∀ c ∈ ds, isDecimalDigit c = true) :
    ds.takeWhile isDecimalDigit = ds ∧ ds.dropWhile isDecimalDigit = [] :=
  ⟨List.takeWhile_eq_self_iff.2 h, List.dropWhile_eq_nil_iff.2 h⟩

theorem ofNumeral_whole {ds : List Char} (hn : ds ≠ []) (hd : ∀ c ∈ ds, isDecimalDigit c = true) :
    Binary64.ofNumeral ds = Binary64.ofDecimal false (ofDecimalDigits ds) 0 := by
  obtain ⟨htake, hdrop⟩ := takeWhile_digits hd
  rw [Binary64.ofNumeral, ofText?_eq_unsigned? fun c hc => .inl (hd c hc), unsigned?, htake, hdrop]
  simp [hn, exponent?]

theorem ofNumeral_fraction {ds es : List Char} (hd : ∀ c ∈ ds, isDecimalDigit c = true) (hn : es ≠ [])
    (he : ∀ c ∈ es, isDecimalDigit c = true) : Binary64.ofNumeral (ds ++ '.' :: es) =
      Binary64.ofDecimal false (ofDecimalDigits (ds ++ es)) (-es.length) := by
  have hpoint : isDecimalDigit '.' = false := by decide
  have hchars : ∀ c ∈ ds ++ '.' :: es, isDecimalDigit c = true ∨ c = '.' := (Numeral.fraction hd hn he).chars
  obtain ⟨htake, hdrop⟩ := takeWhile_digits he
  rw [Binary64.ofNumeral, ofText?_eq_unsigned? hchars, unsigned?, List.takeWhile_append_of_pos hd,
    List.dropWhile_append_of_pos hd, List.takeWhile_cons_of_neg (by simp [hpoint]),
    List.dropWhile_cons_of_neg (by simp [hpoint]), List.append_nil]
  simp [htake, hdrop, hn, exponent?]

end UtilityCss.Number
