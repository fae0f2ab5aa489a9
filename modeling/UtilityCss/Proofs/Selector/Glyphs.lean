import Mathlib.Data.List.Basic
import UtilityCss.Proofs.Stylesheet.Minified
import UtilityCss.Proofs.Text.Ascii
import UtilityCss.Selector
import UtilityCss.Text.Word

/-!
Selectors with their escapes undone. An escape is a backslash before a character that is no hexadecimal
digit, or before up to six such digits and a blank that ends them. An escaped class name is read as the name
in front of any text, and when it loses the blank at its end, in front of a text that does not go on with a
digit.
-/

namespace UtilityCss.Selector

open Text Stylesheet

inductive Glyph where
  | bare (c : Char)
  | escaped (c : Char)
  deriving DecidableEq

/-- What has been read of an escape: nothing, its backslash, or some digits of a code. -/
inductive Pending where
  | nothing
  | slash
  | code (digits value : Nat)

def ofCode (n : Nat) : Char :=
  if n ≠ 0 ∧ n.isValidChar then Char.ofNat n else '\uFFFD'

def endsCode : List Char := [' ', '\t', '\n', '\r', '\x0c']

def glyphs : Pending → List Char → List Glyph
  | .nothing, [] => []
  | .slash, [] => [.escaped '\uFFFD']
  | .code _ n, [] => [.escaped (ofCode n)]
  | .nothing, c :: r => if c = '\\' then glyphs .slash r else .bare c :: glyphs .nothing r
  | .slash, c :: r =>
    if isHexDigit c then glyphs (.code 1 (hexValue c)) r else .escaped c :: glyphs .nothing r
  | .code k n, c :: r =>
    if isHexDigit c ∧ k < 6 then glyphs (.code (k + 1) (16 * n + hexValue c)) r
    else .escaped (ofCode n) ::
      if endsCode.contains c then glyphs .nothing r
      else if c = '\\' then glyphs .slash r else .bare c :: glyphs .nothing r

def isTokenChar (c : Char) : Bool :=
  '!' ≤ c && c ≤ '~' && c != '\x60'

def glyphOf (leading : Bool) (c : Char) : Glyph :=
  if (leading && isDigitLike c) || special.contains c then .escaped c else .bare c

def spell : List Char → List Glyph
  | [] => []
  | '-' :: d :: r => .bare '-' :: glyphOf true d :: r.map (glyphOf false)
  | c :: r => glyphOf true c :: r.map (glyphOf false)

def Ends (c : Char) : Prop :=
  isHexDigit c = false ∧ endsCode.contains c = false

instance (c : Char) : Decidable (Ends c) :=
  inferInstanceAs (Decidable (_ ∧ _))

/-- The text of a name, with the blank at its end set apart, if there is one. No other blank can go. -/
structure Framed (core gap : List Char) : Prop where
  gap_eq : gap = [] ∨ gap = [' ']
  first : ∃ x xs, core = x :: xs ∧ isBlank x = false ∧ isMark x = false
  last : ∃ ys l, core = ys ++ [l] ∧ isBlank l = false ∧ (gap = [] ∨ isMark l = false)
  tight : ∀ glue follow, markup.squeeze glue follow core = core

structure Spelling (core gap : List Char) (gs : List Glyph) : Prop extends Framed core gap where
  reads : ∀ r, glyphs .nothing (core ++ gap ++ r) = gs ++ glyphs .nothing r
  bare : ∀ r, (∀ c ∈ r.head?, gap = [] ∨ Ends c) → glyphs .nothing (core ++ r) = gs ++ glyphs .nothing r

theorem Framed.solid {core gap : List Char} (h : Framed core gap) : Solid core := by
  obtain ⟨x, xs, hx, hfirst, _⟩ := h.first
  obtain ⟨ys, l, hl, hlast, _⟩ := h.last
  refine ⟨?_, ?_⟩
  · rw [hx]
    rintro _ ⟨⟩
    exact hfirst
  · rw [hl, List.getLast?_concat]
    rintro _ ⟨⟩
    exact hlast

theorem Framed.core_ne_nil {core gap : List Char} (h : Framed core gap) : core ≠ [] := by
  obtain ⟨x, xs, hx, _⟩ := h.first
  rw [hx]
  exact List.cons_ne_nil x xs

theorem Framed.blanks_gap {core gap : List Char} (h : Framed core gap) : Blanks gap := by
  rcases h.gap_eq with rfl | rfl <;> decide

theorem toNat_lt_of_isTokenChar {c : Char} (h : isTokenChar c = true) : c.toNat < 128 := by
  simp only [isTokenChar, Bool.and_eq_true, decide_eq_true_eq] at h
  have hle : c.toNat ≤ '~'.toNat := h.1.2
  exact Nat.lt_of_le_of_lt hle (by decide)

def Described (c : Char) : Prop :=
  isBlank c = false ∧
    (special.contains c = true ∧ isHexDigit c = false ∨ special.contains c = false ∧ isNameChar c = true) ∧
    (isDigitLike c = true → c ∈ "0123456789".toList)

instance (c : Char) : Decidable (Described c) :=
  inferInstanceAs (Decidable (_ ∧ _))

theorem described {c : Char} (h : isTokenChar c = true) : Described c := by
  have hall : ∀ n : Fin 128, isTokenChar (Char.ofNat n) = true → Described (Char.ofNat n) := by
    decide +kernel
  exact ascii_induction (P := fun c => isTokenChar c = true → Described c) hall (toNat_lt_of_isTokenChar h) h

theorem glyphs_nothing (c : Char) (r : List Char) :
    glyphs .nothing (c :: r) = if c = '\\' then glyphs .slash r else .bare c :: glyphs .nothing r := by
  rw [glyphs]

theorem glyphs_code_end {k n : Nat} {c : Char} (h : isHexDigit c = false) (r : List Char) :
    glyphs (.code k n) (c :: r) =
      .escaped (ofCode n) :: if endsCode.contains c then glyphs .nothing r else glyphs .nothing (c :: r) := by
  have hdigit : ¬ (isHexDigit c = true ∧ k < 6) := by simp [h]
  conv_lhs => rw [glyphs, if_neg hdigit]
  rw [glyphs_nothing]

theorem glyphs_bare {a : List Char} (h : '\\' ∉ a) (r : List Char) :
    glyphs .nothing (a ++ r) = a.map .bare ++ glyphs .nothing r := by
  induction a with
  | nil => rfl
  | cons c a ih =>
    rw [List.mem_cons, not_or] at h
    rw [List.cons_append, glyphs, if_neg (Ne.symm h.1), ih h.2]
    rfl

theorem glyphs_escapeChar (c : Char) (r : List Char) :
    glyphs .nothing (escapeChar false c ++ r) = glyphOf false c :: glyphs .nothing r := by
  have hslash : special.contains '\\' = true := by decide
  have hhex : ∀ d ∈ special, isHexDigit d = false := by decide
  rw [escapeChar, glyphOf, Bool.false_and, Bool.false_or, if_neg Bool.false_ne_true]
  by_cases hs : special.contains c = true
  · have hc := hhex c (List.contains_iff_mem.1 hs)
    rw [if_pos hs, if_pos hs, List.cons_append, glyphs, if_pos rfl, List.singleton_append, glyphs, hc,
      if_neg Bool.false_ne_true]
  · have hc : c ≠ '\\' := fun he => hs (he ▸ hslash)
    rw [if_neg hs, if_neg hs, List.singleton_append, glyphs, if_neg hc]

theorem glyphs_flatMap (cs r : List Char) :
    glyphs .nothing (cs.flatMap (escapeChar false) ++ r) = cs.map (glyphOf false) ++ glyphs .nothing r := by
  induction cs with
  | nil => rfl
  | cons c cs ih =>
    rw [List.flatMap_cons, List.append_assoc, glyphs_escapeChar, ih]
    rfl

theorem digit_spec : ∀ d ∈ "0123456789".toList,
    isHexDigit d = true ∧ ofCode (16 * hexValue '3' + hexValue d) = d := by
  decide

theorem glyphs_digit {d : Char} (hd : d ∈ "0123456789".toList) (r : List Char) :
    glyphs .nothing (['\\', '3', d] ++ r) = glyphs (.code 2 (16 * hexValue '3' + hexValue d)) r := by
  have hthree : isHexDigit '3' = true := by decide
  obtain ⟨hhex, _⟩ := digit_spec d hd
  rw [List.cons_append, glyphs, if_pos rfl, List.cons_append, glyphs, if_pos hthree, List.singleton_append, glyphs,
    if_pos ⟨hhex, by decide⟩]

theorem glyphs_digit_blank {d : Char} (hd : d ∈ "0123456789".toList) (r : List Char) :
    glyphs .nothing (['\\', '3', d] ++ [' '] ++ r) = .escaped d :: glyphs .nothing r := by
  obtain ⟨_, hcode⟩ := digit_spec d hd
  have hends : endsCode.contains ' ' = true := by decide
  rw [List.append_assoc, glyphs_digit hd, List.singleton_append, glyphs_code_end (by decide), if_pos hends, hcode]

theorem glyphs_digit_bare {d : Char} (hd : d ∈ "0123456789".toList) {r : List Char} (hr : ∀ c ∈ r.head?, Ends c) :
    glyphs .nothing (['\\', '3', d] ++ r) = .escaped d :: glyphs .nothing r := by
  obtain ⟨_, hcode⟩ := digit_spec d hd
  rw [glyphs_digit hd]
  cases r with
  | nil => exact congrArg (fun c => [Glyph.escaped c]) hcode
  | cons c r =>
    obtain ⟨hhex, hends⟩ := hr c rfl
    rw [glyphs_code_end hhex, hends, if_neg Bool.false_ne_true, hcode]

theorem solid_escapeChar {c : Char} (h : isBlank c = false) : ∀ x ∈ escapeChar false c, isBlank x = false := by
  have hslash : isBlank '\\' = false := by decide
  rw [escapeChar, Bool.false_and, if_neg Bool.false_ne_true]
  split <;> simp [h, hslash]

theorem solid_flatMap {cs : List Char} (h : ∀ c ∈ cs, isBlank c = false) :
    ∀ x ∈ cs.flatMap (escapeChar false), isBlank x = false := by
  intro x hx
  obtain ⟨c, hc, hm⟩ := List.mem_flatMap.1 hx
  exact solid_escapeChar (h c hc) x hm

theorem not_isMark_of_not_special {c : Char} (h : special.contains c = false) : isMark c = false := by
  have hmarks : ∀ d ∈ ['\x7b', '\x7d', ':', ';', ','], special.contains d = true := by decide
  rw [← Bool.not_eq_true] at h ⊢
  intro hm
  refine h (hmarks c ?_)
  simpa [isMark, or_assoc] using hm

theorem first_flatMap {cs : List Char} (h : ∀ c ∈ cs, isBlank c = false) (hne : cs ≠ []) :
    ∃ x xs, cs.flatMap (escapeChar false) = x :: xs ∧ isBlank x = false ∧ isMark x = false := by
  obtain ⟨c, r, rfl⟩ := List.exists_cons_of_ne_nil hne
  have hslash : isBlank '\\' = false ∧ isMark '\\' = false := by decide
  rw [List.flatMap_cons, escapeChar, Bool.false_and, if_neg Bool.false_ne_true]
  cases hs : special.contains c with
  | true =>
    rw [if_pos rfl]
    exact ⟨'\\', _, rfl, hslash⟩
  | false =>
    rw [if_neg Bool.false_ne_true]
    exact ⟨c, _, rfl, h c (List.mem_cons_self ..), not_isMark_of_not_special hs⟩

theorem framed_flatMap {cs : List Char} (h : ∀ c ∈ cs, isBlank c = false) (hne : cs ≠ []) :
    Framed (cs.flatMap (escapeChar false)) [] where
  gap_eq := .inl rfl
  first := first_flatMap h hne
  last := by
    have hsolid := solid_flatMap h
    obtain ⟨x, xs, hx, _⟩ := first_flatMap h hne
    rcases (cs.flatMap (escapeChar false)).eq_nil_or_concat' with hnil | ⟨ys, l, hl⟩
    · rw [hnil] at hx
      cases hx
    · exact ⟨ys, l, hl, hsolid l (by simp [hl]), .inl rfl⟩
  tight := Spacing.squeeze_of_solid (solid_flatMap h)

theorem spelling_flatMap {cs : List Char} (h : ∀ c ∈ cs, Described c) (hne : cs ≠ []) :
    Spelling (cs.flatMap (escapeChar false)) [] (cs.map (glyphOf false)) where
  toFramed := framed_flatMap (fun c hc => (h c hc).1) hne
  reads r := by rw [List.append_nil, glyphs_flatMap]
  bare r _ := glyphs_flatMap cs r

theorem not_isMark_of_isDigitLike {d : Char} (h : isDigitLike d = true) : isMark d = false := by
  have hspecial : ∀ c ∈ special, isDigitLike c = false := by decide
  apply not_isMark_of_not_special
  rw [← Bool.not_eq_true]
  intro hs
  rw [hspecial d (List.contains_iff_mem.1 hs)] at h
  cases h

theorem tight_digit {d : Char} (hb : isBlank d = false) (hm : isMark d = false) (glue follow : Bool) :
    markup.squeeze glue follow ['\\', '3', d] = ['\\', '3', d] ∧
      markup.squeeze glue false ['\\', '3', d, ' '] = ['\\', '3', d, ' '] := by
  have hplain : (isBlank '\\' = false ∧ isBlank '3' = false) ∧ isBlank ' ' = true := by decide
  have hspace : markup.space = ' ' := rfl
  simp [Spacing.squeeze, Spacing.gives, hplain, hb, hm, hspace]

theorem framed_digit {d : Char} (hb : isBlank d = false) (hm : isMark d = false) {core : List Char}
    (h : Framed core []) : Framed (['\\', '3', d, ' '] ++ core) [] := by
  have hfirst : isBlank '\\' = false ∧ isMark '\\' = false := by decide
  refine ⟨.inl rfl, ⟨'\\', _, rfl, hfirst⟩, ?_, fun g f => ?_⟩
  · obtain ⟨ys, l, hl, hblank, _⟩ := h.last
    exact ⟨['\\', '3', d, ' '] ++ ys, l, by rw [hl, List.append_assoc], hblank, .inl rfl⟩
  · obtain ⟨x, xs, hx, hblank, hmark⟩ := h.first
    have ht := h.tight false f
    rw [hx] at ht ⊢
    have hmark' : markup.mark x = false := hmark
    rw [Spacing.squeeze_append hblank, hmark', (tight_digit hb hm g f).2, ht]

theorem spelling_digit {d : Char} (hd : d ∈ "0123456789".toList) {cs : List Char} (h : ∀ c ∈ cs, Described c) :
    ∃ core gap, ['\\', '3', d, ' '] ++ cs.flatMap (escapeChar false) = core ++ gap ∧
      Spelling core gap (.escaped d :: cs.map (glyphOf false)) := by
  have hchar : ∀ d ∈ "0123456789".toList, isBlank d = false ∧ isMark d = false := by decide
  have hfirst : isBlank '\\' = false ∧ isMark '\\' = false := by decide
  obtain ⟨hblank, hmark⟩ := hchar d hd
  by_cases hne : cs = []
  · subst hne
    have hframed : Framed ['\\', '3', d] [' '] :=
      ⟨.inr rfl, ⟨'\\', _, rfl, hfirst⟩, ⟨['\\', '3'], d, rfl, hblank, .inr hmark⟩,
        fun g f => (tight_digit hblank hmark g f).1⟩
    refine ⟨['\\', '3', d], [' '], by simp, hframed, fun r => ?_, fun r hr => ?_⟩
    · exact glyphs_digit_blank hd r
    · exact glyphs_digit_bare hd fun c hc => (hr c hc).resolve_left (by simp)
  · have hrest := spelling_flatMap h hne
    have hread (r : List Char) : glyphs .nothing (['\\', '3', d, ' '] ++ cs.flatMap (escapeChar false) ++ r) =
        .escaped d :: cs.map (glyphOf false) ++ glyphs .nothing r := by
      have hblank := glyphs_digit_blank hd (cs.flatMap (escapeChar false) ++ r)
      rw [glyphs_flatMap] at hblank
      rwa [List.append_assoc]
    refine ⟨_, [], (List.append_nil _).symm, framed_digit hblank hmark hrest.toFramed, fun r => ?_, fun r _ => ?_⟩
    · rw [List.append_nil]
      exact hread r
    · exact hread r

theorem Framed.hyphen {core gap : List Char} (h : Framed core gap) : Framed ('-' :: core) gap := by
  have hsolid : isBlank '-' = false ∧ isMark '-' = false := by decide
  refine ⟨h.gap_eq, ⟨'-', core, rfl, hsolid⟩, ?_, fun g f => ?_⟩
  · obtain ⟨ys, l, hl, hlast⟩ := h.last
    exact ⟨'-' :: ys, l, by rw [hl, List.cons_append], hlast⟩
  · rw [Spacing.squeeze_solid hsolid.1, h.tight]

theorem Spelling.hyphen {core gap : List Char} {gs : List Glyph} (h : Spelling core gap gs) :
    Spelling ('-' :: core) gap (.bare '-' :: gs) := by
  have hread (x : List Char) : glyphs .nothing ('-' :: x) = .bare '-' :: glyphs .nothing x :=
    glyphs_bare (by decide : '\\' ∉ ['-']) x
  refine ⟨h.toFramed.hyphen, fun r => ?_, fun r hr => ?_⟩
  · rw [List.cons_append, List.cons_append, hread, h.reads]
    rfl
  · rw [List.cons_append, hread, h.bare r hr]
    rfl

theorem spelling_leading {c : Char} {cs : List Char} (h : ∀ x ∈ c :: cs, Described x) :
    ∃ core gap, escapeChar true c ++ cs.flatMap (escapeChar false) = core ++ gap ∧
      Spelling core gap (glyphOf true c :: cs.map (glyphOf false)) := by
  by_cases hd : isDigitLike c = true
  · have hglyph : glyphOf true c = .escaped c := by simp [glyphOf, hd]
    have hescape : escapeChar true c = ['\\', '3', c, ' '] := by simp [escapeChar, hd]
    rw [hglyph, hescape]
    exact spelling_digit ((h c (List.mem_cons_self ..)).2.2 hd) fun x hx => h x (List.mem_cons_of_mem c hx)
  · have hglyph : glyphOf true c = glyphOf false c := by simp [glyphOf, hd]
    have hescape : escapeChar true c = escapeChar false c := by simp [escapeChar, hd]
    rw [hglyph, hescape]
    exact ⟨_, [], (List.append_nil _).symm, spelling_flatMap h (List.cons_ne_nil c cs)⟩

theorem spelling_escape {name : List Char} (h : ∀ c ∈ name, isTokenChar c = true) (hne : name ≠ []) :
    ∃ core gap, escape name = core ++ gap ∧ Spelling core gap (spell name) := by
  have hall : ∀ c ∈ name, Described c := fun c hc => described (h c hc)
  rw [escape.eq_def]
  split
  · exact absurd rfl hne
  · rename_i d r
    obtain ⟨core, gap, he, hs⟩ := spelling_leading fun x hx => hall x (List.mem_cons_of_mem _ hx)
    exact ⟨'-' :: core, gap, by rw [List.cons_append, he, List.cons_append], hs.hyphen⟩
  · rename_i c r hcr
    rw [spell]
    · exact spelling_leading hall
    · exact hcr

theorem apart_escape {x y : Char} (hx : x ≠ '\\') (hy : y ≠ '\\') (hs : special.contains y = true)
    (name : List Char) : Apart x y (escape name) ∧ (escape name).head? ≠ some y := by
  have hne {c : Char} (hc : special.contains c = false) : c ≠ y := by
    rintro rfl
    rw [hs] at hc
    cases hc
  have hbare : ∀ c ∈ ['-', ' ', '3'], special.contains c = false := by decide
  have hspecial : ∀ c ∈ special, isDigitLike c = false := by decide
  have hchar (c : Char) : Apart x y (escapeChar false c) ∧ (escapeChar false c).head? ≠ some y := by
    rw [escapeChar, Bool.false_and, if_neg Bool.false_ne_true]
    split
    · exact ⟨.cons_cons (fun hp => hx hp.1.symm) (.singleton _), fun he => hy (Option.some.inj he).symm⟩
    · rename_i hc
      exact ⟨.singleton _, fun he => hne (by simpa using hc) (Option.some.inj he)⟩
  have hrest (cs : List Char) : Apart x y (cs.flatMap (escapeChar false)) ∧
      (cs.flatMap (escapeChar false)).head? ≠ some y := by
    induction cs with
    | nil => exact ⟨.nil, nofun⟩
    | cons c cs ih =>
      rw [List.flatMap_cons]
      refine ⟨apart_append (hchar c).1 ih.1 (.inl ih.2), ?_⟩
      rw [List.head?_append]
      cases hh : (escapeChar false c).head? with
      | none => exact ih.2
      | some d =>
        have hd := (hchar c).2
        rwa [hh] at hd
  have hlead (c : Char) (cs : List Char) :
      Apart x y (escapeChar true c ++ cs.flatMap (escapeChar false)) ∧
        (escapeChar true c ++ cs.flatMap (escapeChar false)).head? ≠ some y := by
    by_cases hd : isDigitLike c = true
    · have hescape : escapeChar true c = ['\\', '3', c, ' '] := by simp [escapeChar, hd]
      have hdigit : c ≠ y := by
        rintro rfl
        rw [hspecial c (List.contains_iff_mem.1 hs)] at hd
        cases hd
      have hthree := hne (hbare '3' (by decide))
      have hspace := hne (hbare ' ' (by decide))
      rw [hescape]
      refine ⟨apart_append ?_ (hrest cs).1 (.inl (hrest cs).2), fun he => hy (Option.some.inj he).symm⟩
      exact .cons_cons (fun hp => hthree hp.2) (.cons_cons (fun hp => hdigit hp.2)
        (.cons_cons (fun hp => hspace hp.2) (.singleton _)))
    · have hescape : escapeChar true c = escapeChar false c := by simp [escapeChar, hd]
      rw [hescape]
      exact hrest (c :: cs)
  rw [escape.eq_def]
  split
  · exact ⟨.nil, nofun⟩
  · rename_i d r
    obtain ⟨hl, hh⟩ := hlead d r
    rw [List.cons_append, ← List.singleton_append]
    exact ⟨apart_append (.singleton '-') hl (.inl hh), fun he => hne (hbare '-' (by decide)) (Option.some.inj he)⟩
  · exact hlead _ _

end UtilityCss.Selector
