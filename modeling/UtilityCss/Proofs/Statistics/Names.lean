import UtilityCss.Proofs.Selector.Names
import UtilityCss.Proofs.Statistics.Collected

namespace UtilityCss.Stylesheet.Statistics

open Text Selector

variable {a b cs name rest u r : List Char} {c d : Char}

theorem nameRun_of_unit (h : nameUnit? cs = some (u, r)) : nameRun cs = (u ++ (nameRun r).1, (nameRun r).2) := by
  rw [nameRun]
  split
  · rename_i u' r' h'
    rw [h, Option.some.injEq, Prod.mk.injEq] at h'
    rw [h'.1, h'.2]
  · rename_i h'
    rw [h] at h'
    cases h'

theorem nameRun_of_none (h : nameUnit? cs = none) : nameRun cs = ([], cs) := by
  rw [nameRun]
  split
  · rename_i h'
    rw [h] at h'
    cases h'
  · rfl

theorem length_nameRun (cs : List Char) : (nameRun cs).2.length ≤ cs.length := by
  induction cs using nameRun.induct with
  | case1 cs u r h ih =>
    rw [nameRun_of_unit h]
    exact ih.trans (nameUnit?_length h).le
  | case2 cs h => rw [nameRun_of_none h]

def EndsName (cs : List Char) : Prop :=
  ∀ c ∈ cs.head?, isNameChar c = false ∧ c ≠ '\\'

instance (cs : List Char) : Decidable (EndsName cs) :=
  inferInstanceAs (Decidable (∀ c ∈ cs.head?, _))

theorem EndsName.append (ha : EndsName a) (hb : EndsName b) : EndsName (a ++ b) := by
  cases a with
  | nil => exact hb
  | cons c a => exact ha

theorem nameRun_of_endsName (h : EndsName cs) : nameRun cs = ([], cs) := by
  apply nameRun_of_none
  cases cs with
  | nil => rfl
  | cons c r =>
    obtain ⟨hname, hslash⟩ := h c rfl
    rw [nameUnit?]
    · rw [if_neg (by simp [hname])]
    · rintro c' r' rfl
      exact absurd rfl hslash

theorem classNames_nil : classNames [] = [] := by
  rw [classNames, collect]

theorem classNames_cons_of_ne (h : c ≠ '.') (r : List Char) : classNames (c :: r) = classNames r := by
  have hnone : classSelector? (c :: r) = none := by
    rw [classSelector?]
    rintro r' ⟨⟩
    exact h rfl
  exact finds_missed hnone

theorem classNames_append (h : '.' ∉ a) (b : List Char) : classNames (a ++ b) = classNames b := by
  induction a with
  | nil => rfl
  | cons c a ih =>
    rw [List.mem_cons, not_or] at h
    rw [List.cons_append, classNames_cons_of_ne (Ne.symm h.1), ih h.2]

theorem classNames_of_not_mem (h : '.' ∉ a) : classNames a = [] := by
  have happend := classNames_append h []
  rwa [List.append_nil, classNames_nil] at happend

theorem classNames_dot (r : List Char) : classNames ('.' :: r) =
    if (nameRun r).1 = [] then classNames r else (nameRun r).1 :: classNames (nameRun r).2 := by
  have hselector : classSelector? ('.' :: r) = if (nameRun r).1 = [] then none else some (nameRun r) := by
    simp [classSelector?]
  by_cases h : (nameRun r).1 = []
  · rw [if_pos h] at hselector
    rw [if_pos h]
    exact finds_missed hselector
  · rw [if_neg h] at hselector
    rw [if_neg h]
    exact finds_found hselector (length_nameRun r)

theorem takeWhile_take_append_newline (a b : List Char) (n : Nat) :
    ((a ++ '\n' :: b).take n).takeWhile isHexDigit = (a.take n).takeWhile isHexDigit := by
  have hnewline : ¬ isHexDigit '\n' = true := by decide
  induction a generalizing n with
  | nil => cases n <;> simp [hnewline]
  | cons c a ih =>
    cases n with
    | zero => rfl
    | succ n => simp [List.takeWhile_cons, ih]

theorem nameUnit?_of_ne (h : c ≠ '\\') (r : List Char) :
    nameUnit? (c :: r) = if isNameChar c then some ([c], r) else none := by
  rw [nameUnit?]
  rintro c' r' rfl
  exact absurd rfl h

theorem nameUnit?_append_newline (a b : List Char) :
    nameUnit? (a ++ '\n' :: b) = (nameUnit? a).map fun p => (p.1, p.2 ++ '\n' :: b) := by
  have hnewline : isNameChar '\n' = false := by decide
  cases a with
  | nil => simp [nameUnit?, hnewline]
  | cons c r =>
    by_cases hc : c = '\\'
    · subst hc
      cases r with
      | nil => rfl
      | cons c r =>
        have hlength : ((r.take 5).takeWhile isHexDigit).length ≤ r.length :=
          (List.takeWhile_sublist _).length_le.trans (List.length_take_le' ..)
        rw [List.cons_append, List.cons_append, nameUnit?, nameUnit?, takeWhile_take_append_newline]
        dsimp only
        rw [List.drop_append_of_le_length hlength]
        split
        · cases hdrop : r.drop ((r.take 5).takeWhile isHexDigit).length with
          | nil => rfl
          | cons c' r' =>
            by_cases hc : c' = ' '
            · subst hc
              rfl
            · simp [hc]
        · split <;> rfl
    · rw [List.cons_append, nameUnit?_of_ne hc, nameUnit?_of_ne hc]
      split <;> rfl

theorem nameRun_append_newline (a b : List Char) :
    nameRun (a ++ '\n' :: b) = ((nameRun a).1, (nameRun a).2 ++ '\n' :: b) := by
  induction a using nameRun.induct with
  | case1 a u r h ih =>
    have hunit := nameUnit?_append_newline a b
    rw [h] at hunit
    rw [nameRun_of_unit hunit, nameRun_of_unit h, ih]
  | case2 a h =>
    have hunit := nameUnit?_append_newline a b
    rw [h] at hunit
    rw [nameRun_of_none hunit, nameRun_of_none h]

theorem classNames_append_newline (a b : List Char) :
    classNames (a ++ '\n' :: b) = classNames a ++ classNames b := by
  induction hn : a.length using Nat.strong_induction_on generalizing a with
  | h n ih =>
    cases a with
    | nil =>
      rw [classNames_nil]
      exact classNames_cons_of_ne (by decide) b
    | cons c a =>
      rw [List.length_cons] at hn
      by_cases hc : c = '.'
      · subst hc
        rw [List.cons_append, classNames_dot, classNames_dot, nameRun_append_newline]
        split
        · exact ih a.length (by omega) a rfl
        · have hlength := length_nameRun a
          rw [ih _ (by omega) (nameRun a).2 rfl, List.cons_append]
      · rw [List.cons_append, classNames_cons_of_ne hc, classNames_cons_of_ne hc]
        exact ih a.length (by omega) a rfl

theorem classNames_intercalate (selectors : List (List Char)) :
    classNames (['\n'].intercalate selectors) = selectors.flatMap classNames := by
  induction selectors with
  | nil => exact classNames_nil
  | cons s selectors ih =>
    cases selectors with
    | nil => simp
    | cons t selectors =>
      rw [List.intercalate_cons_cons, List.append_assoc, List.singleton_append, classNames_append_newline, ih]
      rfl

def Whole (name rest : List Char) : Prop :=
  nameRun (name ++ rest) = (name, rest)

theorem nameUnit?_escapeChar (h : isTokenChar c = true) (rest : List Char) :
    nameUnit? (escapeChar false c ++ rest) = some (escapeChar false c, rest) := by
  obtain ⟨hblank, hkind, _⟩ := described h
  have hnewline : c ≠ '\n' := by
    rintro rfl
    revert hblank
    decide
  have hslash : special.contains '\\' = true := by decide
  rw [escapeChar, Bool.false_and, if_neg Bool.false_ne_true]
  rcases hkind with ⟨hs, hhex⟩ | ⟨hs, hname⟩
  · rw [if_pos hs, List.cons_append, List.singleton_append, nameUnit?, hhex, if_neg Bool.false_ne_true,
      if_neg hnewline]
  · have hne : c ≠ '\\' := by
      rintro rfl
      rw [hs] at hslash
      cases hslash
    rw [hs, if_neg Bool.false_ne_true, List.singleton_append, nameUnit?_of_ne hne, if_pos hname]

theorem nameUnit?_digit (hd : d ∈ "0123456789".toList) (rest : List Char) :
    nameUnit? ('\\' :: '3' :: d :: ' ' :: rest) = some (['\\', '3', d, ' '], rest) := by
  have hhex : isHexDigit d = true := (digit_spec d hd).1
  have hthree : isHexDigit '3' = true := by decide
  have hspace : isHexDigit ' ' = false := by decide
  simp [nameUnit?, hthree, hhex, hspace]

theorem nameRun_flatMap (h : ∀ c ∈ cs, isTokenChar c = true) (rest : List Char) :
    nameRun (cs.flatMap (escapeChar false) ++ rest) =
      (cs.flatMap (escapeChar false) ++ (nameRun rest).1, (nameRun rest).2) := by
  induction cs with
  | nil => rfl
  | cons c cs ih =>
    rw [List.forall_mem_cons] at h
    rw [List.flatMap_cons, List.append_assoc, nameRun_of_unit (nameUnit?_escapeChar h.1 _), ih h.2, List.append_assoc]

theorem nameRun_leading (h : ∀ x ∈ c :: cs, isTokenChar x = true) (rest : List Char) :
    nameRun (escapeChar true c ++ cs.flatMap (escapeChar false) ++ rest) =
      (escapeChar true c ++ cs.flatMap (escapeChar false) ++ (nameRun rest).1, (nameRun rest).2) := by
  by_cases hd : isDigitLike c = true
  · have hdigit := (described (h c (List.mem_cons_self ..))).2.2 hd
    have hescape : escapeChar true c = ['\\', '3', c, ' '] := by simp [escapeChar, hd]
    have hunit := nameUnit?_digit hdigit (cs.flatMap (escapeChar false) ++ rest)
    rw [hescape, List.append_assoc]
    refine (nameRun_of_unit hunit).trans ?_
    rw [nameRun_flatMap (List.forall_mem_cons.1 h).2, List.append_assoc]
  · have hescape : escapeChar true c = escapeChar false c := by simp [escapeChar, hd]
    rw [hescape, ← List.flatMap_cons, nameRun_flatMap h]

theorem nameRun_escape (h : ∀ c ∈ name, isTokenChar c = true) (rest : List Char) :
    nameRun (escape name ++ rest) = (escape name ++ (nameRun rest).1, (nameRun rest).2) := by
  rw [escape.eq_def]
  split
  · rfl
  · rename_i d r
    rw [List.forall_mem_cons] at h
    have hunit : nameUnit? ('-' :: (escapeChar true d ++ r.flatMap (escapeChar false) ++ rest)) =
        some (['-'], escapeChar true d ++ r.flatMap (escapeChar false) ++ rest) := by
      rw [nameUnit?_of_ne (by decide), if_pos (by decide)]
    rw [List.cons_append, List.cons_append, nameRun_of_unit hunit, nameRun_leading h.2]
    rfl
  · exact nameRun_leading h rest

theorem whole_escape (h : ∀ c ∈ name, isTokenChar c = true) (hr : EndsName rest) : Whole (escape name) rest := by
  rw [Whole, nameRun_escape h, nameRun_of_endsName hr, List.append_nil]

def isLoneDigit : List Char → Bool
  | [d] => isDigitLike d
  | ['-', d] => isDigitLike d
  | _ => false

theorem framed_leading (h : ∀ x ∈ c :: cs, isBlank x = false) (hlone : cs = [] → isDigitLike c = false) :
    Framed (escapeChar true c ++ cs.flatMap (escapeChar false)) [] := by
  rw [List.forall_mem_cons] at h
  by_cases hd : isDigitLike c = true
  · have hescape : escapeChar true c = ['\\', '3', c, ' '] := by simp [escapeChar, hd]
    have hcs : cs ≠ [] := fun hcs => by
      rw [hlone hcs] at hd
      cases hd
    rw [hescape]
    exact framed_digit h.1 (not_isMark_of_isDigitLike hd) (framed_flatMap h.2 hcs)
  · have hescape : escapeChar true c = escapeChar false c := by simp [escapeChar, hd]
    rw [hescape, ← List.flatMap_cons]
    exact framed_flatMap (List.forall_mem_cons.2 h) (List.cons_ne_nil c cs)

theorem framed_escape (h : ∀ c ∈ name, isBlank c = false) (hne : name ≠ []) (hl : isLoneDigit name = false) :
    Framed (escape name) [] := by
  rw [escape.eq_def]
  split
  · exact absurd rfl hne
  · rename_i d r
    refine (framed_leading (List.forall_mem_cons.1 h).2 ?_).hyphen
    rintro rfl
    exact hl
  · refine framed_leading h ?_
    rintro rfl
    rwa [isLoneDigit] at hl

theorem trim_escape_of_not_lone (h : ∀ c ∈ name, isTokenChar c = true) (hl : isLoneDigit name = false) :
    trim (escape name) = escape name := by
  by_cases hne : name = []
  · subst hne
    rfl
  · exact (framed_escape (fun c hc => (described (h c hc)).1) hne hl).solid.trim

theorem escape_of_lone (h : ∀ c ∈ name, isTokenChar c = true) (hl : isLoneDigit name = true) :
    escape name = trim (escape name) ++ [' '] ∧ Whole (trim (escape name)) [] := by
  have hdigits : ∀ d ∈ "0123456789".toList, trim ['\\', '3', d, ' '] = ['\\', '3', d] ∧
      trim ['-', '\\', '3', d, ' '] = ['-', '\\', '3', d] ∧ nameUnit? ['\\', '3', d] = some (['\\', '3', d], []) := by
    decide
  have hnil : nameRun [] = ([], []) := nameRun_of_none rfl
  have hminus : isNameChar '-' = true := by decide
  rw [isLoneDigit.eq_def] at hl
  split at hl
  · rename_i d
    obtain ⟨htrim, _, hunit⟩ := hdigits d ((described (h d (by simp))).2.2 hl)
    have hescape : escape [d] = ['\\', '3', d, ' '] := by
      rw [escape]
      · simp [escapeChar, hl]
      · rintro d' r - ⟨⟩
    rw [hescape, htrim, Whole, List.append_nil, nameRun_of_unit hunit, hnil]
    exact ⟨rfl, rfl⟩
  · rename_i d
    obtain ⟨_, htrim, hunit⟩ := hdigits d ((described (h d (by simp))).2.2 hl)
    have hescape : escape ['-', d] = ['-', '\\', '3', d, ' '] := by simp [escape, escapeChar, hl]
    have hhyphen : nameUnit? ['-', '\\', '3', d] = some (['-'], ['\\', '3', d]) := by
      rw [nameUnit?_of_ne (by decide), if_pos hminus]
    rw [hescape, htrim, Whole, List.append_nil, nameRun_of_unit hhyphen, nameRun_of_unit hunit, hnil]
    exact ⟨rfl, rfl⟩
  · cases hl

def unescape (text : List Char) : List Char :=
  (glyphs .nothing text).map Glyph.char

theorem unescape_escape (h : ∀ c ∈ name, isTokenChar c = true) :
    unescape (escape name) = name ∧ unescape (trim (escape name)) = name := by
  by_cases hne : name = []
  · subst hne
    exact ⟨rfl, rfl⟩
  · obtain ⟨core, gap, he, hs⟩ := spelling_escape h hne
    have hreads := hs.reads []
    have hbare := hs.bare [] nofun
    rw [glyphs, List.append_nil, List.append_nil] at hreads hbare
    rw [unescape, unescape, he, trim_append_blanks _ hs.blanks_gap, hs.solid.trim, hreads, hbare, chars_spell]
    exact ⟨rfl, rfl⟩

def groupNames (variant : Option String) : List String :=
  if variant.any ofGroup then ["group"] else []

def modeName : Scheme → String
  | .dark => "dark-mode"
  | .light => "light-mode"

def helperNames (c : Context) : List String :=
  groupNames c.variant ++ ((schemeOf c).map modeName).toList

def endsInName (c : Context) : Bool :=
  (back c.variant c.selector).isEmpty

def lastName (token : String) (c : Context) : List Char :=
  if endsInName c then trim (escape token.toList) else escape token.toList

theorem classNames_whole (h : Whole name rest) (hne : name ≠ []) :
    classNames ('.' :: (name ++ rest)) = name :: classNames rest := by
  rw [classNames_dot, h, if_neg hne]

theorem classNames_escape (h : ∀ c ∈ name, isTokenChar c = true) (hne : escape name ≠ []) (hr : EndsName rest) :
    classNames ('.' :: (escape name ++ rest)) = escape name :: classNames rest :=
  classNames_whole (whole_escape h hr) hne

theorem classNames_front : ∀ s ∈ states, ∀ rest, classNames (front s.1 ++ rest) =
    (groupNames s.1).map (escape ·.toList) ++ classNames ('.' :: rest) := by
  have hfront : ∀ s ∈ states, groupNames s.1 = [] ∧ front s.1 = ['.'] ∨ groupNames s.1 = ["group"] ∧
      front s.1 = '.' :: (escape "group".toList ++ (((front s.1).drop 6).dropLast ++ ['.'])) ∧
      EndsName ((front s.1).drop 6).dropLast ∧ '.' ∉ ((front s.1).drop 6).dropLast := by
    decide +kernel
  intro s hs rest
  rcases hfront s hs with ⟨hgroup, hf⟩ | ⟨hgroup, hf, hends, hdot⟩
  · rw [hgroup, hf]
    rfl
  · have hdotted : EndsName ('.' :: rest) := by
      rintro _ ⟨⟩
      decide
    rw [hgroup, hf, List.cons_append, List.append_assoc, List.append_assoc, List.singleton_append,
      classNames_escape (by decide) (by decide) (hends.append hdotted), classNames_append hdot]
    rfl

theorem back_states : ∀ s ∈ states, '.' ∉ back s.1 s.2 ∧ EndsName (back s.1 s.2) := by
  decide +kernel

variable {token : String} {k : Context}

theorem trim_append_selector (h : Stated k) (ht : ∀ x ∈ token.toList, isTokenChar x = true) (hne : token ≠ "")
    (ha : ∀ x ∈ a.head?, isBlank x = false) :
    trim (a ++ (build Vocabulary.variants token k).toList) =
      a ++ (front k.variant ++ (lastName token k ++ back k.variant k.selector)) := by
  have hname : token.toList ≠ [] := fun he => hne (String.toList_inj.1 he)
  obtain ⟨core, gap, he, hs⟩ := spelling_escape ht hname
  have hcore : trim (escape token.toList) = core := by rw [he, trim_append_blanks _ hs.blanks_gap, hs.solid.trim]
  rw [toList_build h, lastName, endsInName, hcore, he, List.append_assoc, trim_unit (around_states _ h) hs.toFramed ha]
  cases back k.variant k.selector <;> simp

theorem whole_lastName (h : Stated k) (ht : ∀ x ∈ token.toList, isTokenChar x = true) :
    Whole (lastName token k) (back k.variant k.selector) := by
  have hends := (back_states _ h).2
  rw [lastName, endsInName]
  split
  · rename_i hb
    rw [List.isEmpty_iff.1 hb]
    cases hl : isLoneDigit token.toList with
    | true => exact (escape_of_lone ht hl).2
    | false =>
      rw [trim_escape_of_not_lone ht hl]
      exact whole_escape ht nofun
  · exact whole_escape ht hends

theorem escape_ne_nil (hne : token ≠ "") (ht : ∀ x ∈ token.toList, isTokenChar x = true) :
    escape token.toList ≠ [] ∧ lastName token k ≠ [] := by
  have hname : token.toList ≠ [] := fun he => hne (String.toList_inj.1 he)
  have hunescape := unescape_escape ht
  have hescape : escape token.toList ≠ [] := by
    intro he
    rw [he] at hunescape
    exact hname hunescape.1.symm
  refine ⟨hescape, ?_⟩
  rw [lastName]
  split
  · intro he
    rw [he] at hunescape
    exact hname hunescape.2.symm
  · exact hescape

theorem classNames_last (h : Stated k) (ht : ∀ x ∈ token.toList, isTokenChar x = true) (hne : token ≠ "") :
    classNames (front k.variant ++ (lastName token k ++ back k.variant k.selector)) =
      (groupNames k.variant).map (escape ·.toList) ++ [lastName token k] := by
  rw [classNames_front _ h, classNames_whole (whole_lastName h ht) (escape_ne_nil hne ht).2,
    classNames_of_not_mem (back_states _ h).1]

theorem classNames_build (h : Stated k) (ht : ∀ x ∈ token.toList, isTokenChar x = true) (hne : token ≠ "") :
    classNames (trim (build Vocabulary.variants token k).toList) =
      (groupNames k.variant).map (escape ·.toList) ++ [lastName token k] := by
  have htrim := trim_append_selector (a := []) h ht hne nofun
  rw [List.nil_append, List.nil_append] at htrim
  rw [htrim, classNames_last h ht hne]

theorem classNames_toggled (h : Stated k) (ht : ∀ x ∈ token.toList, isTokenChar x = true) (hne : token ≠ "")
    (m : Scheme) :
    classNames (trim (toggled m (build Vocabulary.variants token k)).toList) =
      (groupNames k.variant).map (escape ·.toList) ++ escape token.toList :: escape (modeName m).toList ::
        ((groupNames k.variant).map (escape ·.toList) ++ [lastName token k]) := by
  obtain ⟨hfront, hfirst, hne'⟩ : '.' ∉ toggleFront m ∧ (∀ x ∈ (toggleFront m).head?, isBlank x = false) ∧
      toggleFront m ≠ [] := by
    cases m <;> decide
  obtain ⟨hmiddle, hmode, hmode'⟩ : toggleMiddle m = ", ".toList ++ '.' :: (escape (modeName m).toList ++ " ".toList) ∧
      (∀ x ∈ (modeName m).toList, isTokenChar x = true) ∧ escape (modeName m).toList ≠ [] := by
    cases m <;> decide
  obtain ⟨hback, hends⟩ := back_states _ h
  have hcomma : EndsName ", ".toList ∧ '.' ∉ ", ".toList ∧ '.' ∉ " ".toList := by decide
  have hbehind (rest : List Char) : EndsName (back k.variant k.selector ++ (", ".toList ++ '.' :: rest)) :=
    hends.append (show EndsName (", ".toList ++ _) from hcomma.1)
  have hspace (rest : List Char) : EndsName (" ".toList ++ rest) := by
    rintro _ ⟨⟩
    decide
  have htext : (toggled m (build Vocabulary.variants token k)).toList =
      (toggleFront m ++ ((build Vocabulary.variants token k).toList ++ toggleMiddle m)) ++
        (build Vocabulary.variants token k).toList := by
    rw [toList_toggled, List.append_assoc, List.append_assoc]
  have hhead : ∀ x ∈ (toggleFront m ++ ((build Vocabulary.variants token k).toList ++ toggleMiddle m)).head?,
      isBlank x = false := by
    rwa [List.head?_append_of_ne_nil _ hne']
  rw [htext, trim_append_selector h ht hne hhead, toList_build h, hmiddle]
  simp only [List.append_assoc, List.cons_append]
  have hescape := (escape_ne_nil (k := k) hne ht).1
  rw [classNames_append hfront, classNames_front _ h, classNames_escape ht hescape (hbehind _),
    classNames_append hback, classNames_append hcomma.2.1, classNames_escape hmode hmode' (hspace _),
    classNames_append hcomma.2.2, classNames_last h ht hne]

end UtilityCss.Stylesheet.Statistics
