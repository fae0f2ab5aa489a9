import UtilityCss.Proofs.Selector.Reading

namespace UtilityCss.Selector

open Text Stylesheet

namespace Glyph

def char : Glyph → Char
  | bare c => c
  | escaped c => c

def inName : Glyph → Bool
  | bare c => isNameChar c
  | escaped _ => true

def endsName : Glyph → Bool
  | bare c => !isIdentifierChar c
  | escaped _ => false

end Glyph

theorem not_isBlank_of_isNameChar {c : Char} (h : isNameChar c = true) : Text.isBlank c = false := by
  have hall : ∀ n : Fin 128, isNameChar (Char.ofNat n) = true → Text.isBlank (Char.ofNat n) = false := by
    decide +kernel
  have hbelow {d : Char} (hd : d.toNat < 128) (hc : c ≤ d) : c.toNat < 128 := Nat.lt_of_le_of_lt hc hd
  have hlt : c.toNat < 128 := by
    simp only [isNameChar, isAsciiLetter, isAsciiDigit, Bool.or_eq_true, Bool.and_eq_true, decide_eq_true_eq,
      beq_iff_eq] at h
    rcases h with (((⟨_, h⟩ | ⟨_, h⟩) | ⟨_, h⟩) | rfl) | rfl
    · exact hbelow (by decide) h
    · exact hbelow (by decide) h
    · exact hbelow (by decide) h
    · decide
    · decide
  exact ascii_induction (P := fun c => isNameChar c = true → Text.isBlank c = false) hall hlt h

theorem char_glyphOf (leading : Bool) (c : Char) : (glyphOf leading c).char = c := by
  rw [glyphOf]
  split <;> rfl

theorem chars_spell (name : List Char) : (spell name).map Glyph.char = name := by
  have hmap (cs : List Char) : (cs.map (glyphOf false)).map Glyph.char = cs := by
    rw [List.map_map]
    exact (List.map_congr_left fun c _ => char_glyphOf false c).trans (List.map_id' cs)
  rw [spell.eq_def]
  split
  · rfl
  · rw [List.map_cons, List.map_cons, char_glyphOf, hmap]
    rfl
  · rw [List.map_cons, char_glyphOf, hmap]

theorem inName_glyphOf {c : Char} (h : isTokenChar c = true) (leading : Bool) :
    (glyphOf leading c).inName = true := by
  rw [glyphOf]
  split
  · rfl
  · rename_i hnot
    rcases (described h).2.1 with ⟨hs, _⟩ | ⟨_, hname⟩
    · exact absurd (by rw [hs, Bool.or_true]) hnot
    · exact hname

theorem inName_spell {name : List Char} (h : ∀ c ∈ name, isTokenChar c = true) :
    ∀ g ∈ spell name, g.inName = true := by
  have hmap {cs : List Char} (hc : ∀ c ∈ cs, isTokenChar c = true) : ∀ g ∈ cs.map (glyphOf false), g.inName = true :=
    List.forall_mem_map.2 fun c hm => inName_glyphOf (hc c hm) false
  rw [spell.eq_def]
  split
  · exact nofun
  · simp only [List.forall_mem_cons] at h ⊢
    exact ⟨by decide, inName_glyphOf h.2.1 true, hmap h.2.2⟩
  · simp only [List.forall_mem_cons] at h ⊢
    exact ⟨inName_glyphOf h.1 true, hmap h.2⟩

theorem lexemes_suffix (state : Option (List Char)) (a r : List Glyph) :
    lexemes (some []) r <:+ lexemes state (a ++ .bare '.' :: r) := by
  have hdot : isIdentifierChar '.' = false := by decide
  induction a generalizing state with
  | nil =>
    cases state with
    | none => exact List.suffix_refl _
    | some name =>
      rw [List.nil_append, lexemes, hdot, if_neg Bool.false_ne_true, if_pos rfl]
      exact List.suffix_cons ..
  | cons g a ih =>
    rw [List.cons_append]
    cases state with
    | none =>
      rw [lexemes]
      split
      · exact ih _
      · exact (ih none).trans (List.suffix_cons ..)
    | some name =>
      cases g with
      | escaped c => exact ih _
      | bare c =>
        rw [lexemes]
        split
        · exact ih _
        · refine List.IsSuffix.trans ?_ (List.suffix_cons ..)
          split
          · exact ih _
          · exact (ih none).trans (List.suffix_cons ..)

theorem name_mem_lexemes {gs r : List Glyph} (h : ∀ g ∈ gs, g.inName = true) (hr : ∀ g ∈ r.head?, g.endsName = true)
    (name : List Char) : .name (name ++ gs.map Glyph.char) ∈ lexemes (some name) (gs ++ r) := by
  induction gs generalizing name with
  | nil =>
    rw [List.map_nil, List.append_nil, List.nil_append]
    cases r with
    | nil => exact List.mem_cons_self ..
    | cons g r =>
      have hends := hr g rfl
      cases g with
      | escaped c => cases hends
      | bare c =>
        rw [lexemes, if_neg (by simpa [Glyph.endsName] using hends)]
        exact List.mem_cons_self ..
  | cons g gs ih =>
    rw [List.forall_mem_cons] at h
    have hgs := ih h.2 (name ++ [g.char])
    rw [List.append_assoc, List.singleton_append, ← List.map_cons] at hgs
    cases g with
    | escaped c => exact hgs
    | bare c =>
      have hname : isNameChar c = true := h.1
      rwa [List.cons_append, lexemes, if_pos (by simp [isIdentifierChar, hname])]

theorem name_mem_squeezed {a gs b : List Glyph} (h : ∀ g ∈ gs, g.inName = true)
    (hb : ∀ g ∈ (combinators.squeeze false true b).head?, g.endsName = true) :
    .name (gs.map Glyph.char) ∈ lexemes none (combinators.squeeze true true (a ++ .bare '.' :: (gs ++ b))) := by
  have hplain : ∀ g ∈ gs, combinators.blank g = false ∧ combinators.mark g = false := by
    intro g hg
    have hname := h g hg
    cases g with
    | escaped c => exact ⟨rfl, by simp [combinators]⟩
    | bare c =>
      have hmarks : ∀ d ∈ ['>', '+', '~', ','], isNameChar d = false := by decide
      have hnot := not_mem_of_class hmarks hname
      exact ⟨not_isBlank_of_isNameChar hname, by simpa [combinators] using hnot⟩
  have hdot : combinators.blank (.bare '.') = false ∧ combinators.mark (.bare '.') = false := by decide
  have hsplit : combinators.squeeze true true (a ++ .bare '.' :: (gs ++ b)) =
      combinators.squeeze true false a ++ .bare '.' :: (gs ++ combinators.squeeze false true b) := by
    rw [Spacing.squeeze_append hdot.1, hdot.2, Spacing.squeeze_solid hdot.1, hdot.2, Spacing.squeeze_plain_append hplain]
  rw [hsplit]
  exact (lexemes_suffix none _ _).subset (name_mem_lexemes h hb [])

theorem surrounded : ∀ s ∈ states, (front s.1).getLast? = some '.' ∧
    ∀ g ∈ (combinators.squeeze false true ((back s.1 s.2).map .bare)).head?, g.endsName = true := by
  decide +kernel

variable {c : Context} {token : String}

theorem name_mem_read (h : Stated c) (ht : ∀ x ∈ token.toList, isTokenChar x = true) (hne : token ≠ "") :
    .name token.toList ∈ read (build Vocabulary.variants token c).toList ∧
      ∀ m, .name token.toList ∈ read (toggled m (build Vocabulary.variants token c)).toList := by
  have hname : token.toList ≠ [] := fun he => hne (String.toList_inj.1 he)
  obtain ⟨core, gap, he, hs⟩ := spelling_escape ht hname
  have ha := around_states _ h
  obtain ⟨hlast, hends⟩ := surrounded _ h
  obtain ⟨f, hf⟩ := List.getLast?_eq_some_iff.1 hlast
  have htext : (build Vocabulary.variants token c).toList =
      front c.variant ++ (core ++ gap ++ back c.variant c.selector) := by
    rw [toList_build h, he, List.append_assoc]
  have hmem (a : List Glyph) : .name token.toList ∈ lexemes none (combinators.squeeze true true
      (a ++ unit (front c.variant) (spell token.toList) (back c.variant c.selector))) := by
    have hchars := name_mem_squeezed (a := a ++ f.map .bare) (inName_spell ht) hends
    rw [chars_spell, List.append_assoc] at hchars
    rwa [unit, hf, List.map_append, List.append_assoc]
  refine ⟨?_, fun m => ?_⟩
  · have hunit := glyphs_unit ha hs []
    rw [List.append_nil, glyphs, List.append_nil] at hunit
    rw [read, spaced, htext, hunit]
    exact hmem []
  · have hall := hmem ((toggleFront m).map .bare ++ (unit (front c.variant) (spell token.toList)
      (back c.variant c.selector) ++ (toggleMiddle m).map .bare))
    rw [read, spaced, toList_toggled, htext, glyphs_toggled ha hs]
    simpa using hall

end UtilityCss.Selector
