import UtilityCss.Proofs.Selector.Glyphs
import UtilityCss.Proofs.Selector.Shape
import UtilityCss.Proofs.Stylesheet.Distinct

namespace UtilityCss.Selector

open Text Stylesheet

def Glyph.isBlank : Glyph → Bool
  | .bare c => Text.isBlank c
  | .escaped _ => false

def combinators : Spacing Glyph :=
  ⟨Glyph.isBlank, fun g => [.bare '>', .bare '+', .bare '~', .bare ','].contains g, .bare ' ', by decide⟩

def isIdentifierChar (c : Char) : Bool :=
  isNameChar c || 0x80 ≤ c.toNat

inductive Lexeme where
  | name (text : List Char)
  | other (g : Glyph)
  deriving DecidableEq

def lexemes : Option (List Char) → List Glyph → List Lexeme
  | none, [] => []
  | some name, [] => [.name name]
  | none, g :: r => if g = .bare '.' then lexemes (some []) r else .other g :: lexemes none r
  | some name, .escaped c :: r => lexemes (some (name ++ [c])) r
  | some name, .bare c :: r =>
    if isIdentifierChar c then lexemes (some (name ++ [c])) r
    else .name name :: if c = '.' then lexemes (some []) r else .other (.bare c) :: lexemes none r

def spaced (text : List Char) : List Glyph :=
  combinators.squeeze true true (glyphs .nothing text)

def read (text : List Char) : List Lexeme :=
  lexemes none (spaced text)

def Behind (back : List Char) : Prop :=
  back = [] ∨ back = " > * + *".toList ∨ back.head? = some ':' ∧ markup.squeeze false true back = back

instance (back : List Char) : Decidable (Behind back) :=
  inferInstanceAs (Decidable (_ ∨ _))

structure Around (front back : List Char) : Prop where
  first : front.head? = some '.'
  tight : ∀ glue, markup.squeeze glue false front = front
  plain : ∀ c ∈ ['\\', ';', '/'], c ∉ front ∧ c ∉ back
  last : ∀ c ∈ back.getLast?, Text.isBlank c = false
  behind : Behind back

theorem around_states : ∀ s ∈ states, Around (front s.1) (back s.1 s.2) := by
  have h : ∀ s ∈ states, (front s.1).head? = some '.' ∧
      (∀ glue, markup.squeeze glue false (front s.1) = front s.1) ∧
      (∀ c ∈ ['\\', ';', '/'], c ∉ front s.1 ∧ c ∉ back s.1 s.2) ∧
      (∀ c ∈ (back s.1 s.2).getLast?, Text.isBlank c = false) ∧ Behind (back s.1 s.2) := by
    decide +kernel
  exact fun s hs => ⟨(h s hs).1, (h s hs).2.1, (h s hs).2.2.1, (h s hs).2.2.2.1, (h s hs).2.2.2.2⟩

def settled (core back : List Char) : List Char :=
  if core.getLast?.any isMark then back.dropWhile Text.isBlank else back

variable {core gap front back : List Char} {gs : List Glyph}

theorem squeeze_core (h : Framed core gap) (hb : Behind back) :
    markup.squeeze false true (core ++ gap ++ back) = core ++ settled core back := by
  obtain ⟨ys, l, hl, hblank, hgap⟩ := h.last
  have hgapblank : ∀ c ∈ gap, markup.blank c = true := by
    rcases h.gap_eq with rfl | rfl
    · exact nofun
    · decide
  have hlast : core.getLast? = some l := by rw [hl, List.getLast?_concat]
  rcases hb with rfl | rfl | ⟨hhead, htight⟩
  · have hsettled : settled core [] = [] := by simp [settled]
    rw [hsettled, List.append_nil, List.append_nil, Spacing.squeeze_last hgapblank, h.tight]
  · have hback : " > * + *".toList = ' ' :: "> * + *".toList := by decide
    have hchild : "> * + *".toList = '>' :: " * + *".toList := by decide
    have hsplit : core ++ gap ++ " > * + *".toList = (ys ++ l :: (gap ++ [' '])) ++ "> * + *".toList := by
      rw [hl, hback]
      simp
    have hys : markup.squeeze false (markup.mark l) ys = ys := by
      have ht := h.tight false true
      rw [hl, Spacing.squeeze_append hblank, Spacing.squeeze_solid hblank] at ht
      exact List.append_inj_left' ht rfl
    have hrest : markup.squeeze false true "> * + *".toList = "> * + *".toList := by decide
    have hgreater : markup.blank '>' = false ∧ markup.mark '>' = false := by decide
    rw [hsplit, hchild, Spacing.squeeze_append hgreater.1, ← hchild, hrest, hgreater.2, Spacing.squeeze_append hblank,
      Spacing.squeeze_solid hblank, hys, settled, hlast]
    cases hm : isMark l with
    | true =>
      have hmark : markup.mark l = true := hm
      have hnone : markup.squeeze true false (gap ++ [' '] ++ []) = [] :=
        Spacing.squeeze_blanks (List.forall_mem_append.2 ⟨hgapblank, by decide⟩) false []
      have hdrop : " > * + *".toList.dropWhile Text.isBlank = "> * + *".toList := by decide
      rw [List.append_nil] at hnone
      rw [hmark, hnone, Option.any_some, hm, if_pos rfl, hdrop, hl]
    | false =>
      have hmark : markup.mark l = false := hm
      have hone : markup.squeeze false false (gap ++ [' ']) = [' '] := by
        rcases h.gap_eq with rfl | rfl <;> decide
      rw [hmark, hone, Option.any_some, hm, if_neg Bool.false_ne_true, hl, hback]
      simp
  · obtain ⟨r, rfl⟩ : ∃ r, back = ':' :: r := by
      cases back with
      | nil => cases hhead
      | cons c r => exact ⟨r, by cases hhead; rfl⟩
    have hsettled : settled core (':' :: r) = ':' :: r := by
      have hcolon : Text.isBlank ':' = false := by decide
      rw [settled, List.dropWhile_cons_of_neg (by simp [hcolon]), ite_self]
    have hblank : markup.blank ':' = false := by decide
    have hmark : markup.mark ':' = true := by decide
    rw [Spacing.squeeze_append hblank, hmark, Spacing.squeeze_last hgapblank, h.tight, htight, hsettled]

theorem squeeze_unit (ha : Around front back) (h : Framed core gap) (glue : Bool) :
    markup.squeeze glue true (front ++ (core ++ gap ++ back)) = front ++ (core ++ settled core back) := by
  obtain ⟨x, xs, hx, hblank, hmark⟩ := h.first
  have hm : markup.mark x = false := hmark
  have hsplit : core ++ gap ++ back = x :: (xs ++ gap ++ back) := by rw [hx]; rfl
  rw [hsplit, Spacing.squeeze_append hblank, hm, ha.tight, ← hsplit, squeeze_core h ha.behind]

def Near (a b : List Char) : Prop :=
  a = b ∨ b = ' ' :: a ∧ a.head? = some '>'

def unit (front : List Char) (gs : List Glyph) (back : List Char) : List Glyph :=
  front.map .bare ++ (gs ++ back.map .bare)

theorem glyphs_unit (ha : Around front back) (h : Spelling core gap gs) (r : List Char) :
    glyphs .nothing (front ++ (core ++ gap ++ back) ++ r) = unit front gs back ++ glyphs .nothing r := by
  have hslash := ha.plain '\\' (List.mem_cons_self ..)
  rw [List.append_assoc, glyphs_bare hslash.1, List.append_assoc, h.reads, glyphs_bare hslash.2, unit]
  simp

theorem settled_near (hb : Behind back) (core : List Char) : Near (settled core back) back := by
  rw [settled]
  split
  · rcases hb with rfl | rfl | ⟨hhead, _⟩
    · exact .inl rfl
    · exact .inr (by decide)
    · cases back with
      | nil => exact .inl rfl
      | cons c r =>
        cases hhead
        have hcolon : ¬ Text.isBlank ':' = true := by decide
        exact .inl (List.dropWhile_cons_of_neg hcolon)
  · exact .inl rfl

theorem glyphs_settled (ha : Around front back) (h : Spelling core gap gs) :
    ∃ back', Near back' back ∧ ∀ r : List Char, (∀ c ∈ r.head?, c = ',') →
      glyphs .nothing (front ++ (core ++ settled core back) ++ r) = unit front gs back' ++ glyphs .nothing r := by
  have hslash := ha.plain '\\' (List.mem_cons_self ..)
  have hends : Ends ',' ∧ Ends ':' := by decide
  rcases h.gap_eq with rfl | rfl
  · refine ⟨settled core back, settled_near ha.behind core, fun r _ => ?_⟩
    have hsettled : '\\' ∉ settled core back := by
      rw [settled]
      split
      · exact fun hm => hslash.2 ((List.dropWhile_sublist _).subset hm)
      · exact hslash.2
    rw [List.append_assoc, glyphs_bare hslash.1, List.append_assoc, h.bare _ fun _ _ => .inl rfl,
      glyphs_bare hsettled, unit]
    simp
  · obtain ⟨ys, l, hl, _, hmark⟩ := h.last
    have hkeep : settled core back = back := by
      rw [settled, hl, List.getLast?_concat, Option.any_some, hmark.resolve_left (by simp), if_neg Bool.false_ne_true]
    rw [hkeep]
    rcases ha.behind with rfl | rfl | ⟨hhead, _⟩
    · refine ⟨[], .inl rfl, fun r hr => ?_⟩
      rw [List.append_nil, List.append_assoc, glyphs_bare hslash.1, h.bare r fun c hc => .inr (hr c hc ▸ hends.1), unit]
      simp
    · have hback : " > * + *".toList = [' '] ++ "> * + *".toList := by decide
      refine ⟨"> * + *".toList, .inr (by decide), fun r _ => ?_⟩
      rw [List.append_assoc, glyphs_bare hslash.1, hback, ← List.append_assoc core, List.append_assoc, h.reads,
        glyphs_bare (by decide), unit]
      simp
    · refine ⟨back, .inl rfl, fun r _ => ?_⟩
      have hnext : ∀ c ∈ (back ++ r).head?, [' '] = [] ∨ Ends c := by
        rw [List.head?_append, hhead]
        rintro _ ⟨⟩
        exact .inr hends.2
      rw [List.append_assoc, glyphs_bare hslash.1, List.append_assoc, h.bare _ hnext, glyphs_bare hslash.2, unit]
      simp

theorem squeeze_near {gs : List Glyph} {a b : List Char} (h : Near a b) (glue : Bool) :
    combinators.squeeze glue true (unit front gs a) = combinators.squeeze glue true (unit front gs b) := by
  rcases h with rfl | ⟨rfl, hhead⟩
  · rfl
  · obtain ⟨r, rfl⟩ : ∃ r, a = '>' :: r := by
      cases a with
      | nil => cases hhead
      | cons c r => exact ⟨r, by cases hhead; rfl⟩
    have hblank : combinators.blank (.bare '>') = false := by decide
    have hmark : combinators.mark (.bare '>') = true := by decide
    have hspace : ∀ g ∈ [Glyph.bare ' '], combinators.blank g = true := by decide
    have hleft : unit front gs ('>' :: r) = (front.map .bare ++ gs) ++ .bare '>' :: r.map .bare := by simp [unit]
    have hright : unit front gs (' ' :: '>' :: r) =
        ((front.map .bare ++ gs) ++ [.bare ' ']) ++ .bare '>' :: r.map .bare := by simp [unit]
    rw [hleft, hright, Spacing.squeeze_append hblank, Spacing.squeeze_append hblank, hmark,
      Spacing.squeeze_last hspace]

theorem Around.front_ne_nil (ha : Around front back) : front ≠ [] := by
  intro hf
  have hfirst := ha.first
  rw [hf] at hfirst
  cases hfirst

theorem trim_unit (ha : Around front back) (h : Framed core gap) {before : List Char}
    (hfirst : ∀ c ∈ before.head?, Text.isBlank c = false) :
    trim (before ++ (front ++ (core ++ gap ++ back))) =
      before ++ (front ++ (core ++ if back = [] then [] else gap ++ back)) := by
  have hne : before ++ front ≠ [] := by simp [ha.front_ne_nil]
  have hhead : ∀ c ∈ (before ++ front).head?, Text.isBlank c = false := by
    rw [List.head?_append, ha.first]
    cases hb : before.head? with
    | none =>
      rintro _ ⟨⟩
      decide
    | some c =>
      rintro _ ⟨⟩
      exact hfirst c hb
  by_cases hback : back = []
  · have hsolid := solid_append hne hhead h.core_ne_nil h.solid.last
    rw [if_pos hback, hback, List.append_nil, List.append_nil, ← List.append_assoc, ← List.append_assoc,
      trim_append_blanks _ h.blanks_gap, hsolid.trim, List.append_assoc]
  · have hlast : ∀ c ∈ (core ++ gap ++ back).getLast?, Text.isBlank c = false := by
      rw [List.getLast?_append_of_ne_nil _ hback]
      exact ha.last
    have hsolid := solid_append hne hhead (by simp [hback]) hlast
    rw [if_neg hback, ← List.append_assoc, hsolid.trim, List.append_assoc, List.append_assoc]

theorem glyphs_trim (ha : Around front back) (h : Spelling core gap gs) {before : List Char} {bs : List Glyph}
    (hread : ∀ r, glyphs .nothing (before ++ r) = bs ++ glyphs .nothing r)
    (hfirst : ∀ c ∈ before.head?, Text.isBlank c = false) :
    glyphs .nothing (trim (before ++ (front ++ (core ++ gap ++ back)))) =
      bs ++ unit front gs back := by
  have hnil : glyphs .nothing [] = [] := rfl
  rw [trim_unit ha h.toFramed hfirst, hread]
  by_cases hback : back = []
  · have hcore := h.bare [] nofun
    have hslash := ha.plain '\\' (List.mem_cons_self ..)
    rw [List.append_nil, hnil, List.append_nil] at hcore
    rw [if_pos hback, List.append_nil, glyphs_bare hslash.1, hcore, hback, unit]
    simp
  · have hfull := glyphs_unit ha h []
    rw [List.append_nil, hnil, List.append_nil, List.append_assoc core] at hfull
    rw [if_neg hback, hfull]

structure Settles (text : List Char) : Prop where
  trimmed : spaced (trim text) = spaced text
  squeezed : spaced (squeezed text) = spaced text
  uncommented : Stylesheet.Apart '/' '*' text
  unclosed : Stylesheet.Apart ';' '\x7d' (Stylesheet.squeezed text)

theorem apart_unit {x y : Char} {name : List Char} (hf : x ∉ front) (hb : x ∉ back) (hh : back.head? ≠ some y)
    (hn : Apart x y name ∧ name.head? ≠ some y) : Apart x y (front ++ (name ++ back)) := by
  refine apart_append (apart_of_not_mem hf) (apart_append hn.1 (apart_of_not_mem hb) (.inl hh)) (.inr fun hl => ?_)
  exact hf (List.mem_of_getLast? hl)

theorem settled_spec (ha : Around front back) (core : List Char) {x y : Char} (hx : x ∉ back)
    (hy : y ∉ [':', ' ', '>']) : x ∉ settled core back ∧ (settled core back).head? ≠ some y := by
  have hb := ha.behind
  have hsub : settled core back ⊆ back := by
    rw [settled]
    split
    · exact (List.dropWhile_sublist _).subset
    · exact List.Subset.refl _
  refine ⟨fun hm => hx (hsub hm), fun hhead => hy ?_⟩
  rcases settled_near hb core with he | ⟨_, hgreater⟩
  · rw [he] at hhead
    rcases hb with rfl | rfl | ⟨hcolon, _⟩
    · cases hhead
    · cases hhead
      decide
    · rw [hcolon] at hhead
      cases hhead
      decide
  · rw [hgreater] at hhead
    cases hhead
    decide

theorem settles_unit (ha : Around front back) (h : Spelling core gap gs)
    (hc : Apart '/' '*' (core ++ gap) ∧ (core ++ gap).head? ≠ some '*')
    (hu : Apart ';' '\x7d' core ∧ core.head? ≠ some '\x7d') : Settles (front ++ (core ++ gap ++ back)) := by
  have hnil : glyphs .nothing [] = [] := rfl
  obtain ⟨back', hnear, hread⟩ := glyphs_settled ha h
  have hsettled := hread [] nofun
  have hunit := glyphs_unit ha h []
  rw [List.append_nil, hnil, List.append_nil] at hsettled hunit
  have hslash := ha.plain '/' (by decide)
  have hsemicolon := ha.plain ';' (by decide)
  have hback := settled_spec ha core hsemicolon.2 (by decide : '\x7d' ∉ [':', ' ', '>'])
  refine ⟨?_, ?_, ?_, ?_⟩
  · have hread (r : List Char) : glyphs .nothing ([] ++ r) = [] ++ glyphs .nothing r := rfl
    have htrim := glyphs_trim ha h hread fun c hc => by cases hc
    rw [List.nil_append, List.nil_append] at htrim
    rw [spaced, htrim, spaced, hunit]
  · rw [Stylesheet.squeezed, squeeze_unit ha h.toFramed, spaced, spaced, hsettled, hunit, squeeze_near hnear]
  · have hhead := settled_spec ha [] hslash.2 (by decide : '*' ∉ [':', ' ', '>'])
    exact apart_unit hslash.1 hslash.2 hhead.2 hc
  · rw [Stylesheet.squeezed, squeeze_unit ha h.toFramed]
    exact apart_unit hsemicolon.1 hback.1 hback.2 hu

theorem exists_of_head? {α : Type} {a : List α} {x : α} (h : a.head? = some x) : ∃ r, a = x :: r := by
  cases a with
  | nil => cases h
  | cons c r =>
    cases h
    exact ⟨r, rfl⟩

def comma (m : Scheme) : List Char :=
  markup.squeeze false false (toggleMiddle m)

structure Toggles (m : Scheme) : Prop where
  front : markup.squeeze true false (toggleFront m) = toggleFront m
  middle : combinators.squeeze false false ((comma m).map .bare) =
    combinators.squeeze false false ((toggleMiddle m).map .bare)
  first : (toggleFront m).head? = some '['
  comma : (toggleMiddle m).head? = some ',' ∧ (comma m).head? = some ','
  plain : ∀ c ∈ ['\\', ';', '/'], c ∉ toggleFront m ∧ c ∉ toggleMiddle m ∧ c ∉ Selector.comma m

theorem toggles (m : Scheme) : Toggles m := by
  cases m <;> exact ⟨by decide, by decide, by decide, by decide, by decide⟩

theorem squeezed_toggled {u : List Char} (hu : u.head? = some '.') (m : Scheme) :
    squeezed (toggleFront m ++ (u ++ (toggleMiddle m ++ u))) =
      toggleFront m ++ (markup.squeeze false true u ++ (comma m ++ markup.squeeze false true u)) := by
  obtain ⟨r, rfl⟩ := exists_of_head? hu
  obtain ⟨b, hb⟩ := exists_of_head? (toggles m).comma.1
  have hdot : markup.blank '.' = false ∧ markup.mark '.' = false := by decide
  have hcomma : markup.blank ',' = false ∧ markup.mark ',' = true := by decide
  have htwice := Spacing.squeeze_twice hdot.1 hdot.2 hcomma.1 hcomma.2 true (toggleFront m) (u := r) (b := b)
  rwa [← hb, (toggles m).front] at htwice

theorem spaced_toggled {u v : List Glyph} (hu : u.head? = some (.bare '.')) (hv : v.head? = some (.bare '.'))
    (huv : combinators.squeeze false true u = combinators.squeeze false true v) (m : Scheme) (a : List Glyph) :
    combinators.squeeze true true (a ++ (u ++ ((comma m).map .bare ++ u))) =
      combinators.squeeze true true (a ++ (v ++ ((toggleMiddle m).map .bare ++ v))) := by
  have hm := toggles m
  obtain ⟨r, rfl⟩ := exists_of_head? hu
  obtain ⟨t, rfl⟩ := exists_of_head? hv
  obtain ⟨b, hb⟩ := exists_of_head? hm.comma.1
  obtain ⟨b', hb'⟩ := exists_of_head? hm.comma.2
  have hdot : combinators.blank (.bare '.') = false ∧ combinators.mark (.bare '.') = false := by decide
  have hcomma : combinators.blank (.bare ',') = false ∧ combinators.mark (.bare ',') = true := by decide
  have hmiddle := hm.middle
  rw [hb, hb', List.map_cons, List.map_cons] at hmiddle ⊢
  rw [Spacing.squeeze_twice hdot.1 hdot.2 hcomma.1 hcomma.2, Spacing.squeeze_twice hdot.1 hdot.2 hcomma.1 hcomma.2,
    huv, hmiddle]

theorem apart_toggled {x y : Char} {a u b : List Char} (ha : x ∉ a) (hb : x ∉ b) (hu : Apart x y u)
    (hfirst : u.head? ≠ some y) (hcomma : b.head? ≠ some y) : Apart x y (a ++ (u ++ (b ++ u))) := by
  have hnot {z : List Char} (hz : x ∉ z) : z.getLast? ≠ some x := fun hl => hz (List.mem_of_getLast? hl)
  have hright : Apart x y (b ++ u) := apart_append (apart_of_not_mem hb) hu (.inr (hnot hb))
  have hhead : (b ++ u).head? ≠ some y := by
    rw [List.head?_append]
    cases hz : b.head? with
    | none => exact hfirst
    | some c => rwa [hz] at hcomma
  exact apart_append (apart_of_not_mem ha) (apart_append hu hright (.inl hhead)) (.inr (hnot ha))

theorem head?_unit (ha : Around front back) (gs : List Glyph) (b : List Char) :
    (unit front gs b).head? = some (.bare '.') := by
  obtain ⟨f, hf⟩ := exists_of_head? ha.first
  rw [hf]
  rfl

theorem glyphs_toggled (ha : Around front back) (h : Spelling core gap gs) (m : Scheme) :
    glyphs .nothing (toggleFront m ++ (front ++ (core ++ gap ++ back) ++
      (toggleMiddle m ++ (front ++ (core ++ gap ++ back))))) =
      (toggleFront m).map .bare ++ (unit front gs back ++ ((toggleMiddle m).map .bare ++ unit front gs back)) := by
  have hslash := (toggles m).plain '\\' (by decide)
  have hunit := glyphs_unit ha h []
  rw [List.append_nil, glyphs, List.append_nil] at hunit
  rw [glyphs_bare hslash.1, glyphs_unit ha h, glyphs_bare hslash.2.1, hunit]

theorem settles_toggled (ha : Around front back) (h : Spelling core gap gs)
    (hc : Apart '/' '*' (core ++ gap) ∧ (core ++ gap).head? ≠ some '*')
    (hu : Apart ';' '\x7d' core ∧ core.head? ≠ some '\x7d') (m : Scheme) :
    Settles (toggleFront m ++ (front ++ (core ++ gap ++ back) ++
      (toggleMiddle m ++ (front ++ (core ++ gap ++ back))))) := by
  have hm := toggles m
  have hown := settles_unit ha h hc hu
  have hfirst {x : List Char} : (front ++ x).head? = some '.' := by rw [List.head?_append, ha.first]; rfl
  have hsqueezed := squeezed_toggled (hfirst (x := core ++ gap ++ back)) m
  rw [squeeze_unit ha h.toFramed] at hsqueezed
  obtain ⟨back', hnear, hread⟩ := glyphs_settled ha h
  have hslash := hm.plain '\\' (by decide)
  have hglyphs := glyphs_toggled ha h m
  refine ⟨?_, ?_, ?_, ?_⟩
  · have hbefore (r : List Char) :
        glyphs .nothing (toggleFront m ++ (front ++ (core ++ gap ++ back) ++ toggleMiddle m) ++ r) =
          (toggleFront m).map .bare ++ (unit front gs back ++ (toggleMiddle m).map .bare) ++ glyphs .nothing r := by
      rw [List.append_assoc, List.append_assoc, glyphs_bare hslash.1, glyphs_unit ha h, glyphs_bare hslash.2.1]
      simp
    have htrim := glyphs_trim ha h hbefore fun c hc => by
      rw [List.head?_append, hm.first] at hc
      cases hc
      decide
    have htext : toggleFront m ++ (front ++ (core ++ gap ++ back) ++ toggleMiddle m) ++
        (front ++ (core ++ gap ++ back)) = toggleFront m ++ (front ++ (core ++ gap ++ back) ++
          (toggleMiddle m ++ (front ++ (core ++ gap ++ back)))) := by simp
    rw [htext] at htrim
    rw [spaced, htrim, spaced, hglyphs]
    simp
  · have hcomma : ∀ c ∈ (comma m ++ (front ++ (core ++ settled core back))).head?, c = ',' := by
      rw [List.head?_append, hm.comma.2]
      rintro _ ⟨⟩
      rfl
    have hlast := hread [] fun c hc => by cases hc
    rw [List.append_nil, glyphs, List.append_nil] at hlast
    rw [hsqueezed, spaced, spaced, hglyphs, glyphs_bare hslash.1, hread _ hcomma, glyphs_bare hslash.2.2, hlast]
    exact spaced_toggled (head?_unit ha gs back') (head?_unit ha gs back) (squeeze_near hnear false) m _
  · have hplain := hm.plain '/' (by decide)
    refine apart_toggled hplain.1 hplain.2.1 hown.uncommented ?_ ?_
    · rw [hfirst]
      decide
    · rw [hm.comma.1]
      decide
  · have hplain := hm.plain ';' (by decide)
    have hunclosed := hown.unclosed
    rw [Stylesheet.squeezed, squeeze_unit ha h.toFramed] at hunclosed
    rw [hsqueezed]
    refine apart_toggled hplain.1 hplain.2.2 hunclosed ?_ ?_
    · rw [hfirst]
      decide
    · rw [hm.comma.2]
      decide

variable {c : Context} {token : String}

theorem settles_build (h : Stated c) (ht : ∀ x ∈ token.toList, isTokenChar x = true) (hne : token ≠ "") :
    Settles (build Vocabulary.variants token c).toList ∧
      ∀ m, Settles (toggled m (build Vocabulary.variants token c)).toList := by
  have hname : token.toList ≠ [] := fun he => hne (String.toList_inj.1 he)
  obtain ⟨core, gap, he, hs⟩ := spelling_escape ht hname
  have ha := around_states _ h
  have hstar := apart_escape (by decide : '/' ≠ '\\') (by decide : '*' ≠ '\\') (by decide) token.toList
  have hbrace := apart_escape (by decide : ';' ≠ '\\') (by decide : '\x7d' ≠ '\\') (by decide) token.toList
  rw [he] at hstar hbrace
  have hcore : Apart ';' '\x7d' core ∧ core.head? ≠ some '\x7d' := by
    obtain ⟨x, xs, hx, _⟩ := hs.first
    refine ⟨(List.isChain_append.1 hbrace.1).1, ?_⟩
    have hhead := hbrace.2
    rwa [hx] at hhead ⊢
  have htext : (build Vocabulary.variants token c).toList =
      front c.variant ++ (core ++ gap ++ back c.variant c.selector) := by
    rw [toList_build h, he, List.append_assoc]
  refine ⟨?_, fun m => ?_⟩
  · rw [htext]
    exact settles_unit ha hs hstar hcore
  · rw [toList_toggled, htext]
    exact settles_toggled ha hs hstar hcore m

end UtilityCss.Selector
