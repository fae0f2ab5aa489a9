import UtilityCss.Markup
import UtilityCss.Proofs.Selector.Names

/-!
Class selectors as identifiers. An identifier goes on as long as there are name characters and escapes, and it
starts with neither a digit nor a lone hyphen. An escaped class name is read as the whole identifier behind its
dot if no character of it was left bare that ends a name, no code was written for a digit of another script, and
the name is more than a hyphen.
-/

namespace UtilityCss.Selector

open Text

def isNameStart (c : Char) : Bool :=
  isAsciiLetter c || c = '_' || 0x80 ≤ c.toNat

namespace Glyph

def inIdentifier : Glyph → Bool
  | bare c => isIdentifierChar c
  | escaped _ => true

def startsName : Glyph → Bool
  | bare c => isNameStart c
  | escaped _ => true

end Glyph

def startsIdentifier : List Glyph → Bool
  | [] => false
  | g :: r => if g = .bare '-' then r.head?.any fun h => h = .bare '-' || h.startsName else g.startsName

def readClass? : List Glyph → Option (List Char × List Glyph)
  | .bare '.' :: gs =>
    if startsIdentifier gs then
      some ((gs.takeWhile Glyph.inIdentifier).map Glyph.char, gs.dropWhile Glyph.inIdentifier)
    else none
  | _ => none

def leading? : List Char → Option Char
  | '-' :: d :: _ => some d
  | c :: _ => some c
  | [] => none

/-- The characters that are not escaped although no identifier has them: the space and the controls below it,
the grave accent and the last ASCII control. -/
def Overlooked (c : Char) : Prop :=
  c ≤ ' ' ∨ c = '\x60' ∨ c = '\x7f'

instance (c : Char) : Decidable (Overlooked c) :=
  inferInstanceAs (Decidable (_ ∨ _))

structure Writable (name : List Char) : Prop where
  nonempty : name ≠ []
  notHyphen : name ≠ ['-']
  covered : ∀ c ∈ name, ¬ Overlooked c
  digit : ∀ c ∈ leading? name, isDigitLike c = true → c ∈ "0123456789".toList

theorem not_overlooked_iff (c : Char) :
    ¬ Overlooked c ↔ isIdentifierChar c = true ∨ special.contains c = true := by
  have hall : ∀ n : Fin 128, ¬ Overlooked (Char.ofNat n) ↔
      isIdentifierChar (Char.ofNat n) = true ∨ special.contains (Char.ofNat n) = true := by decide +kernel
  by_cases hlt : c.toNat < 128
  · exact ascii_induction (P := fun c => ¬ Overlooked c ↔ isIdentifierChar c = true ∨ special.contains c = true)
      hall hlt
  · have hwide : isIdentifierChar c = true := by
      simp only [isIdentifierChar, Bool.or_eq_true, decide_eq_true_eq]
      omega
    have hnot : ¬ Overlooked c := by
      rintro (hle | rfl | rfl)
      · have hsmall : c.toNat ≤ ' '.toNat := hle
        exact hlt (Nat.lt_of_le_of_lt hsmall (by decide))
      · exact hlt (by decide)
      · exact hlt (by decide)
    simp [hwide, hnot]

theorem glyphs_hyphen (x : List Char) : glyphs .nothing ('-' :: x) = .bare '-' :: glyphs .nothing x :=
  glyphs_bare (by decide : '\\' ∉ ['-']) x

theorem glyphs_leading {c : Char} (h : isDigitLike c = true → c ∈ "0123456789".toList) (r : List Char) :
    glyphs .nothing (escapeChar true c ++ r) = glyphOf true c :: glyphs .nothing r := by
  by_cases hd : isDigitLike c = true
  · have he : escapeChar true c = ['\\', '3', c] ++ [' '] := by simp [escapeChar, hd]
    rw [he, glyphs_digit_blank (h hd)]
    simp [glyphOf, hd]
  · have he : escapeChar true c = escapeChar false c := by simp [escapeChar, hd]
    rw [he, glyphs_escapeChar]
    simp [glyphOf, hd]

theorem glyphs_escape {name : List Char} (h : ∀ c ∈ leading? name, isDigitLike c = true → c ∈ "0123456789".toList)
    (r : List Char) : glyphs .nothing (escape name ++ r) = spell name ++ glyphs .nothing r := by
  rw [escape.eq_def]
  split
  · rfl
  · rename_i d cs
    rw [List.cons_append, List.cons_append, glyphs_hyphen, List.append_assoc, glyphs_leading (h d rfl), glyphs_flatMap]
    rfl
  · rename_i c cs hcs
    have hlead : leading? (c :: cs) = some c := by
      rw [leading?]
      exact hcs
    have hspell : spell (c :: cs) = glyphOf true c :: cs.map (glyphOf false) := by
      rw [spell]
      exact hcs
    rw [List.append_assoc, glyphs_leading (h c hlead), glyphs_flatMap, hspell]
    rfl

theorem isHexDigit_of_isDigitLike {c : Char} (hx : isHexDigit c = true) (hd : isDigitLike c = true) :
    c ∈ "0123456789".toList := by
  have hall : ∀ n : Fin 128, isHexDigit (Char.ofNat n) = true → isDigitLike (Char.ofNat n) = true →
      Char.ofNat n ∈ "0123456789".toList := by decide +kernel
  exact ascii_induction (P := fun c => isHexDigit c = true → isDigitLike c = true → c ∈ "0123456789".toList)
    hall (toNat_lt_of_isHexDigit hx) hx hd

theorem glyphs_foreign {d : Char} (hd : isDigitLike d = true) (hf : d ∉ "0123456789".toList) (r : List Char) :
    ∃ gs, glyphs .nothing (escapeChar true d ++ r) = .escaped '\x03' :: gs := by
  have hhex : isHexDigit d = false := by
    by_contra hx
    exact hf (isHexDigit_of_isDigitLike (by simpa using hx) hd)
  have hthree : isHexDigit '3' = true := by decide
  have he : escapeChar true d = ['\\', '3', d, ' '] := by simp [escapeChar, hd]
  have hcode : ofCode (hexValue '3') = '\x03' := by decide
  rw [he, List.cons_append, glyphs_nothing, if_pos rfl, List.cons_append, glyphs, if_pos hthree, List.cons_append,
    glyphs_code_end hhex, hcode]
  exact ⟨_, rfl⟩

theorem char_of_readClass? {gs : List Glyph} {name : List Char} {r : List Glyph}
    (h : readClass? (.bare '.' :: gs) = some (name, r)) :
    startsIdentifier gs = true ∧ (gs.takeWhile Glyph.inIdentifier).map Glyph.char = name ∧
      gs.dropWhile Glyph.inIdentifier = r := by
  rw [readClass?] at h
  split at h
  · rename_i hs
    obtain ⟨hname, hrest⟩ := Prod.mk.inj (Option.some.inj h)
    exact ⟨hs, hname, hrest⟩
  · cases h

theorem length_spell (name : List Char) : (spell name).length = name.length := by
  rw [← List.length_map Glyph.char, chars_spell]

theorem inIdentifier_glyphOf {l : Bool} {c : Char} (h : l = true → isDigitLike c = true → c ∈ "0123456789".toList) :
    (glyphOf l c).inIdentifier = true ↔ isIdentifierChar c = true ∨ special.contains c = true := by
  have hdigits : ∀ d ∈ "0123456789".toList, isIdentifierChar d = true := by decide
  rw [glyphOf]
  split
  · rename_i he
    have hchar : isIdentifierChar c = true ∨ special.contains c = true := by
      rcases Bool.or_eq_true_iff.1 he with hd | hs
      · rw [Bool.and_eq_true] at hd
        exact .inl (hdigits c (h hd.1 hd.2))
      · exact .inr hs
    simp only [Glyph.inIdentifier, hchar]
  · rename_i he
    rw [Bool.or_eq_true, not_or] at he
    rw [or_iff_left he.2]
    rfl

theorem inIdentifier_spell_iff {name : List Char}
    (h : ∀ c ∈ leading? name, isDigitLike c = true → c ∈ "0123456789".toList) :
    (∀ g ∈ spell name, g.inIdentifier = true) ↔
      ∀ c ∈ name, isIdentifierChar c = true ∨ special.contains c = true := by
  have hrest (cs : List Char) : (∀ g ∈ cs.map (glyphOf false), g.inIdentifier = true) ↔
      ∀ c ∈ cs, isIdentifierChar c = true ∨ special.contains c = true := by
    rw [List.forall_mem_map]
    exact forall₂_congr fun c _ => inIdentifier_glyphOf nofun
  have hminus : (Glyph.bare '-').inIdentifier = true ∧ isIdentifierChar '-' = true := by decide
  rw [spell.eq_def]
  split
  · simp
  · rename_i d cs
    simp only [List.forall_mem_cons, hrest, inIdentifier_glyphOf fun _ => h d rfl, hminus, true_or, true_and]
  · rename_i c cs hcs
    have hlead : leading? (c :: cs) = some c := by
      rw [leading?]
      exact hcs
    simp only [List.forall_mem_cons, hrest, inIdentifier_glyphOf fun _ => h c hlead]

theorem startsName_glyphOf {c : Char} (h : (glyphOf true c).inIdentifier = true) :
    glyphOf true c = .bare '-' ∨ (glyphOf true c).startsName = true := by
  have hall : ∀ n : Fin 128, isNameChar (Char.ofNat n) = true → Char.ofNat n = '-' ∨
      isNameStart (Char.ofNat n) = true ∨ isDigitLike (Char.ofNat n) = true := by decide +kernel
  rw [glyphOf] at h ⊢
  split at h
  · rename_i he
    rw [if_pos he]
    exact .inr rfl
  · rename_i he
    rw [if_neg he]
    by_cases hlt : c.toNat < 128
    · have hname : isNameChar c = true := by
        simp only [Glyph.inIdentifier, isIdentifierChar, Bool.or_eq_true, decide_eq_true_eq] at h
        exact h.resolve_right (by omega)
      have hkind := ascii_induction (P := fun c => isNameChar c = true → c = '-' ∨ isNameStart c = true ∨
        isDigitLike c = true) hall hlt hname
      rcases hkind with rfl | hs | hd
      · exact .inl rfl
      · exact .inr hs
      · exact absurd (by simp [hd]) he
    · right
      simp only [Glyph.startsName, isNameStart, Bool.or_eq_true, decide_eq_true_eq]
      omega

variable {name : List Char} {stop : Char}

theorem startsIdentifier_spell_iff (hw : ∀ g ∈ spell name, g.inIdentifier = true) (hs : stop ∈ [' ', '\x7b'])
    (r : List Glyph) :
    startsIdentifier (spell name ++ .bare stop :: r) = true ↔ name ≠ [] ∧ name ≠ ['-'] := by
  have hstop : (Glyph.bare stop).startsName = false ∧ stop ≠ '-' := by
    revert stop
    decide
  rw [spell.eq_def] at hw ⊢
  split at hw
  · simp [startsIdentifier, hstop]
  · rename_i d cs
    have hd := startsName_glyphOf (hw (glyphOf true d) (by simp))
    simpa [startsIdentifier] using hd
  · rename_i c cs hcs
    have hc := startsName_glyphOf (hw (glyphOf true c) (by simp))
    by_cases hminus : c = '-'
    · subst hminus
      have hnil : cs = [] := by
        cases cs with
        | nil => rfl
        | cons d ds => exact absurd rfl (hcs d ds rfl)
      have hbare : glyphOf true '-' = .bare '-' := by decide
      simp [hnil, hbare, startsIdentifier, hstop]
    · have hne : glyphOf true c ≠ .bare '-' := by
        intro he
        rw [← char_glyphOf true c, he] at hminus
        exact hminus rfl
      have hstart := hc.resolve_left hne
      simp [startsIdentifier, hne, hstart, hminus]

theorem readClass?_spell_iff (hs : stop ∈ [' ', '\x7b']) (r : List Glyph)
    (h : ∀ c ∈ leading? name, isDigitLike c = true → c ∈ "0123456789".toList) :
    readClass? (.bare '.' :: (spell name ++ .bare stop :: r)) = some (name, .bare stop :: r) ↔ Writable name := by
  have hstop : (Glyph.bare stop).inIdentifier = false := by
    revert stop
    decide
  constructor
  · intro hr
    obtain ⟨hstart, hname, _⟩ := char_of_readClass? hr
    have hall : ∀ g ∈ spell name, g.inIdentifier = true := by
      rw [List.takeWhile_append] at hname
      split at hname
      · rename_i hl
        exact List.takeWhile_eq_self_iff.1 ((List.takeWhile_prefix _).eq_of_length hl)
      · rename_i hl
        rw [← List.length_map Glyph.char, hname, length_spell] at hl
        exact absurd rfl hl
    obtain ⟨hne, hh⟩ := (startsIdentifier_spell_iff hall hs r).1 hstart
    refine ⟨hne, hh, fun c hc => ?_, h⟩
    exact (not_overlooked_iff c).2 ((inIdentifier_spell_iff h).1 hall c hc)
  · intro hw
    have hall := (inIdentifier_spell_iff h).2 fun c hc => (not_overlooked_iff c).1 (hw.covered c hc)
    have hstart := (startsIdentifier_spell_iff hall hs r).2 ⟨hw.nonempty, hw.notHyphen⟩
    rw [readClass?, if_pos hstart, List.takeWhile_append_of_pos hall, List.dropWhile_append_of_pos hall,
      List.takeWhile_cons_of_neg (by simp [hstop]), List.dropWhile_cons_of_neg (by simp [hstop]), List.append_nil,
      chars_spell]

theorem glyphs_escape_foreign {d : Char} (hl : leading? name = some d) (hd : isDigitLike d = true)
    (hf : d ∉ "0123456789".toList) (r : List Char) :
    ∃ front gs, glyphs .nothing (escape name ++ r) = front ++ .escaped '\x03' :: gs ∧
      (∀ g ∈ front, g.inIdentifier = true) ∧ front.map Glyph.char ++ [d] <+: name := by
  rw [escape.eq_def]
  split
  · cases hl
  · rename_i c cs
    obtain rfl : c = d := Option.some.inj hl
    obtain ⟨gs, hgs⟩ := glyphs_foreign hd hf (cs.flatMap (escapeChar false) ++ r)
    refine ⟨[.bare '-'], gs, ?_, by decide, ⟨cs, rfl⟩⟩
    rw [List.cons_append, List.cons_append, glyphs_hyphen, List.append_assoc, hgs]
    rfl
  · rename_i c cs hcs
    obtain rfl : c = d := by
      rw [leading?] at hl
      · exact Option.some.inj hl
      · exact hcs
    obtain ⟨gs, hgs⟩ := glyphs_foreign hd hf (cs.flatMap (escapeChar false) ++ r)
    refine ⟨[], gs, ?_, List.forall_mem_nil _, ⟨cs, rfl⟩⟩
    rw [List.append_assoc, hgs]
    rfl

theorem readClass?_escape_foreign {d : Char} (hl : leading? name = some d) (hd : isDigitLike d = true)
    (hf : d ∉ "0123456789".toList) (r : List Char) (gs : List Glyph) :
    readClass? (.bare '.' :: glyphs .nothing (escape name ++ r)) ≠ some (name, gs) := by
  intro hr
  obtain ⟨front, rest, hg, hfront, tail, hname⟩ := glyphs_escape_foreign hl hd hf r
  obtain ⟨_, hread, _⟩ := char_of_readClass? hr
  rw [hg, List.takeWhile_append_of_pos hfront, List.takeWhile_cons_of_pos rfl, List.map_append, List.map_cons,
    ← hname, List.append_assoc, List.append_cancel_left_eq, List.singleton_append] at hread
  have hcontrol : '\x03' = d := (List.cons.inj hread).1
  rw [← hcontrol] at hd
  revert hd
  decide

/-- A class name is read back from its escaped form, whatever follows the space or the brace behind it, exactly
if it is writable. -/
theorem escape_reads_back_iff (token : String) :
    ∀ stop ∈ [' ', '\x7b'], ∀ rest,
      readClass? (glyphs .nothing (("." ++ escapeClass token).toList ++ stop :: rest)) =
        some (token.toList, glyphs .nothing (stop :: rest)) ↔ Writable token.toList := by
  intro stop hs rest
  have hdot (x : List Char) : glyphs .nothing ('.' :: x) = .bare '.' :: glyphs .nothing x :=
    glyphs_bare (by decide : '\\' ∉ ['.']) x
  have hstop : glyphs .nothing (stop :: rest) = .bare stop :: glyphs .nothing rest := by
    apply glyphs_bare (a := [stop])
    revert stop
    decide
  have htext : ("." ++ escapeClass token).toList ++ stop :: rest =
      '.' :: (escape token.toList ++ stop :: rest) := by
    simp [escapeClass]
  rw [htext, hdot]
  by_cases hd : ∀ c ∈ leading? token.toList, isDigitLike c = true → c ∈ "0123456789".toList
  · rw [glyphs_escape hd, hstop]
    exact readClass?_spell_iff hs _ hd
  · simp only [not_forall] at hd
    obtain ⟨d, hl, hdigit, hf⟩ := hd
    constructor
    · intro hr
      exact absurd hr (readClass?_escape_foreign hl hdigit hf _ _)
    · intro hw
      exact absurd (hw.digit d hl hdigit) hf

theorem escape_reads_back_iff_wide :
    '\x7b' ∈ [' ', '\x7b'] ∧ Writable "-2xl:w-[1/2]é²".toList ∧
      readClass? (glyphs .nothing (("." ++ escapeClass "-2xl:w-[1/2]é²").toList ++ ['\x7b', 'b'])) =
        some ("-2xl:w-[1/2]é²".toList, glyphs .nothing ['\x7b', 'b']) := by
  have hstop : '\x7b' ∈ [' ', '\x7b'] := by decide
  have hwritable : Writable "-2xl:w-[1/2]é²".toList :=
    ⟨by decide, by decide, by decide, by decide⟩
  exact ⟨hstop, hwritable, (escape_reads_back_iff _ _ hstop ['b']).2 hwritable⟩

theorem squared_misread :
    "²" ∈ Markup.classes "<p class=\"²\">" ∧
      readClass? (glyphs .nothing (("." ++ escapeClass "²").toList ++ [' '])) =
        some (['\x03', '²'], [.bare ' ', .bare ' ']) ∧
      readClass? (glyphs .nothing (("." ++ escapeClass "²").toList ++ [' '])) ≠
        some ("²".toList, glyphs .nothing [' ']) := by
  refine ⟨?_, ?_, ?_⟩
  · decide +kernel
  · decide +kernel
  · decide +kernel

end UtilityCss.Selector
