import UtilityCss.Proofs.Statistics.States
import UtilityCss.Proofs.Statistics.Names
import UtilityCss.Proofs.Stylesheet.Tidied

namespace UtilityCss

open Text Stylesheet Stylesheet.Statistics

namespace Stylesheet.Statistics

variable {glue : Bool} {a run : List Char}

theorem tidied_of_not_mem {follow : Bool} (h : '\x7d' ∉ a) : tidied glue follow a = markup.squeeze glue follow a := by
  have hdrop {x : List Char} (hx : '\x7d' ∉ x) : dropLastSemicolons x = x := by
    induction x with
    | nil => rfl
    | cons c x ih =>
      rw [List.mem_cons, not_or] at hx
      rw [dropLastSemicolons_cons fun _ hhead => hx.2 (List.mem_of_head? hhead), ih hx.2]
  apply hdrop
  intro hm
  rcases Spacing.squeeze_subset glue follow a _ hm with hspace | hm
  · cases hspace
  · exact h hm

def Unbraced (text : List Char) : Prop :=
  '\x7b' ∉ text ∧ '\x7d' ∉ text

theorem unbraced_of_forall (h : ∀ c ∈ run, (c == '\x7b' || c == '\x7d') = false) : Unbraced run :=
  ⟨fun hm => absurd (h _ hm) (by decide), fun hm => absurd (h _ hm) (by decide)⟩

theorem unbraced_squeezed (h : Unbraced run) : Unbraced (squeezed run) := by
  have hnot {c : Char} (hc : c ∉ run) (hspace : c ≠ ' ') : c ∉ squeezed run := fun hm =>
    (Spacing.squeeze_subset true true run c hm).elim hspace hc
  exact ⟨hnot h.1 (by decide), hnot h.2 (by decide)⟩

theorem exists_tidied_close (h : Unbraced run) (rest : List Char) :
    ∃ run', Unbraced run' ∧ tidied true true (run ++ '\x7d' :: rest) = run' ++ '\x7d' :: tidied true true rest := by
  have hdrop {x : List Char} (hx : '\x7d' ∉ x) (y : List Char) :
      ∃ x', x' ⊆ x ∧ dropLastSemicolons (x ++ '\x7d' :: y) = x' ++ '\x7d' :: dropLastSemicolons y := by
    induction x with
    | nil => exact ⟨[], List.Subset.refl _, dropLastSemicolons_brace y⟩
    | cons c x ih =>
      rw [List.mem_cons, not_or] at hx
      obtain ⟨x', hsub, hx'⟩ := ih hx.2
      by_cases hlast : c = ';' ∧ x = []
      · obtain ⟨rfl, rfl⟩ := hlast
        exact ⟨[], List.nil_subset _, rfl⟩
      · refine ⟨c :: x', List.cons_subset_cons c hsub, ?_⟩
        rw [List.cons_append, dropLastSemicolons_cons, hx', List.cons_append]
        intro hc hhead
        rw [List.head?_append_of_ne_nil _ fun hnil => hlast ⟨hc, hnil⟩] at hhead
        exact hx.2 (List.mem_of_head? hhead)
  have hrun := unbraced_squeezed h
  obtain ⟨run', hsub, hrun'⟩ := hdrop hrun.2 (markup.squeeze true true rest)
  refine ⟨run', ⟨fun hm => hrun.1 (hsub hm), fun hm => hrun.2 (hsub hm)⟩, ?_⟩
  rw [tidied, Spacing.squeeze_append (by decide), Spacing.squeeze_solid (by decide)]
  exact hrun'

theorem squeezed_eq_nil_iff (run : List Char) : squeezed run = [] ↔ trim run = [] := by
  constructor
  · intro h
    have htidy : tidied true true run = [] := congrArg dropLastSemicolons h
    exact (blanks_of_tidied htidy).trim_eq_nil
  · intro h
    rw [← squeezed_trim, h]
    rfl

theorem heads_unbraced (h : Unbraced run) : heads run = [] := by
  have hgo := go_unbraced h.1 h.2 [] []
  rwa [List.append_nil] at hgo

theorem heads_close (h : Unbraced run) (rest : List Char) : heads (run ++ '\x7d' :: rest) = heads rest := by
  rw [heads, go_unbraced h.1 h.2, go_close, heads]

theorem heads_open (h : Unbraced run) (rest : List Char) :
    heads (run ++ '\x7b' :: rest) = (if run = [] then [] else [run]) ++ heads rest := by
  rw [heads, go_unbraced h.1 h.2, List.append_nil, heads.go, if_pos rfl, List.reverse_reverse]
  cases run <;> simp [heads]

theorem heads_tidied (text : List Char) : (heads (tidied true true text)).map trim =
    (((heads text).map trim).filter (· ≠ [])).map squeezed := by
  induction hn : text.length using Nat.strong_induction_on generalizing text with
  | h n ih =>
    rcases none_or_first (fun c => c == '\x7b' || c == '\x7d') text with hnone | ⟨run, c, rest, rfl, hr, hc⟩
    · have hu := unbraced_of_forall hnone
      rw [tidied_of_not_mem hu.2, ← squeezed, heads_unbraced (unbraced_squeezed hu), heads_unbraced hu]
      rfl
    · have hrun := unbraced_of_forall hr
      rw [List.length_append, List.length_cons] at hn
      have hrest := ih rest.length (by omega) rest rfl
      obtain rfl | rfl : c = '\x7b' ∨ c = '\x7d' := by simpa using hc
      · have hmark : isMark '\x7b' = true := by decide
        rw [tidied_append (by decide) (by decide), hmark, tidied_open, tidied_of_not_mem hrun.2, ← squeezed,
          heads_open (unbraced_squeezed hrun), heads_open hrun, List.map_append, hrest, List.map_append,
          List.filter_append, List.map_append]
        congr 1
        by_cases htrim : trim run = []
        · rw [if_pos ((squeezed_eq_nil_iff run).2 htrim)]
          split
          · rfl
          · rw [List.map_singleton, htrim]
            rfl
        · have hne : run ≠ [] := by
            rintro rfl
            exact htrim rfl
          rw [if_neg fun h => htrim ((squeezed_eq_nil_iff run).1 h), if_neg hne, List.map_singleton, List.map_singleton,
            (solid_squeezed run).trim, List.filter_cons_of_pos (by simpa using htrim), List.filter_nil,
            List.map_singleton, squeezed_trim]
      · obtain ⟨run', hrun', htidy⟩ := exists_tidied_close hrun rest
        rw [htidy, heads_close hrun', heads_close hrun, hrest]

theorem ruleSelectors_tidied (text : List Char) :
    ruleSelectors (tidied true true text) = ((ruleSelectors text).filter (· ≠ [])).map squeezed := by
  have hhead {s : List Char} (hs : s ∈ (heads text).map trim) : (squeezed s).head? = s.head? := by
    obtain ⟨h, _, rfl⟩ := List.mem_map.1 hs
    obtain ⟨_, _, _, _, _, hsolid⟩ := trim_spec h
    rw [squeezed, head?_squeeze, first?, dropWhile_of_first hsolid.first]
  rw [ruleSelectors, ruleSelectors, heads_tidied, List.filter_map, List.filter_filter, List.filter_filter]
  congr 1
  apply List.filter_congr
  intro s hs
  rw [Function.comp_apply, hhead hs, Bool.and_comm]

open Selector

section Names

variable {c d : Char} {u : List Char}

structure Complete (u : List Char) : Prop where
  own : ∃ names, ∀ rest, EndsName rest → classNames (u ++ rest) = names ++ classNames rest
  dotted : ∃ first names, ∀ rest, EndsName rest →
    (nameRun (u ++ rest)).1 = first ∧ classNames (nameRun (u ++ rest)).2 = names ++ classNames rest

theorem Complete.exists_names (h : Complete u) :
    ∃ names, ∀ rest, EndsName rest → classNames ('.' :: (u ++ rest)) = names ++ classNames rest := by
  obtain ⟨own, hown⟩ := h.own
  obtain ⟨first, names, hdotted⟩ := h.dotted
  refine ⟨if first = [] then own else first :: names, fun rest hr => ?_⟩
  obtain ⟨hfirst, hnames⟩ := hdotted rest hr
  rw [classNames_dot, hfirst]
  split
  · exact hown rest hr
  · rw [hnames]
    rfl

theorem escapeChar_special (h : special.contains c = true) : escapeChar false c = ['\\', c] := by
  rw [escapeChar, Bool.false_and, if_neg Bool.false_ne_true, if_pos h]

theorem escapeChar_plain (h : special.contains c = false) : escapeChar false c = [c] := by
  rw [escapeChar, Bool.false_and, if_neg Bool.false_ne_true, h, if_neg Bool.false_ne_true]

theorem nameUnit?_special (h : special.contains c = true) (r : List Char) :
    nameUnit? ('\\' :: c :: r) = some (['\\', c], r) := by
  have hspecial : ∀ c ∈ special, isHexDigit c = false ∧ c ≠ '\n' := by decide
  obtain ⟨hhex, hne⟩ := hspecial c (List.contains_iff_mem.1 h)
  rw [nameUnit?, hhex, if_neg Bool.false_ne_true, if_neg hne]

theorem not_special {x : Char} (h : special.contains c = false) (hx : special.contains x = true) : c ≠ x := by
  rintro rfl
  rw [hx] at h
  cases h

theorem exists_nameRun_flatMap (cs : List Char) : ∃ front back, cs = front ++ back ∧ ∀ rest, EndsName rest →
    nameRun (cs.flatMap (escapeChar false) ++ rest) =
      (front.flatMap (escapeChar false), back.flatMap (escapeChar false) ++ rest) := by
  induction cs with
  | nil => exact ⟨[], [], rfl, fun rest hr => nameRun_of_endsName hr⟩
  | cons c cs ih =>
    obtain ⟨front, back, rfl, ih⟩ := ih
    cases hs : special.contains c with
    | true =>
      refine ⟨c :: front, back, rfl, fun rest hr => ?_⟩
      rw [List.flatMap_cons, List.flatMap_cons, escapeChar_special hs, List.append_assoc, List.cons_append,
        List.singleton_append, nameRun_of_unit (nameUnit?_special hs _), ih rest hr]
    | false =>
      have hne := not_special hs (by decide : special.contains '\\' = true)
      have hunit (r : List Char) := nameUnit?_of_ne hne r
      cases hc : isNameChar c with
      | true =>
        rw [hc] at hunit
        refine ⟨c :: front, back, rfl, fun rest hr => ?_⟩
        rw [List.flatMap_cons, List.flatMap_cons, escapeChar_plain hs, List.append_assoc, List.singleton_append,
          nameRun_of_unit (hunit _), ih rest hr]
      | false =>
        rw [hc] at hunit
        refine ⟨[], c :: (front ++ back), rfl, fun rest _ => ?_⟩
        rw [List.flatMap_cons, escapeChar_plain hs, List.append_assoc, List.singleton_append]
        exact nameRun_of_none (hunit _)

theorem exists_names_flatMap (cs : List Char) : ∃ names, ∀ rest, EndsName rest →
    classNames (cs.flatMap (escapeChar false) ++ rest) = names ++ classNames rest := by
  induction hn : cs.length using Nat.strong_induction_on generalizing cs with
  | h n ih =>
    cases cs with
    | nil => exact ⟨[], fun _ _ => rfl⟩
    | cons c cs =>
      rw [List.length_cons] at hn
      obtain ⟨names, hnames⟩ := ih cs.length (by omega) cs rfl
      cases hs : special.contains c with
      | true =>
        have hescape := escapeChar_special hs
        have hslash (r : List Char) : classNames (['\\', c] ++ r) = classNames (c :: r) :=
          classNames_cons_of_ne (by decide) _
        by_cases hc : c = '.'
        · -- a name may start at an escaped dot
          subst hc
          obtain ⟨front, back, rfl, hrun⟩ := exists_nameRun_flatMap cs
          rw [List.length_append] at hn
          obtain ⟨names', hnames'⟩ := ih back.length (by omega) back rfl
          have hcomplete : Complete ((front ++ back).flatMap (escapeChar false)) :=
            ⟨⟨names, hnames⟩, front.flatMap (escapeChar false), names', fun rest hr => by
              rw [hrun rest hr]
              exact ⟨rfl, hnames' rest hr⟩⟩
          obtain ⟨all, hall⟩ := hcomplete.exists_names
          refine ⟨all, fun rest hr => ?_⟩
          rw [List.flatMap_cons, hescape, List.append_assoc, hslash, hall rest hr]
        · refine ⟨names, fun rest hr => ?_⟩
          rw [List.flatMap_cons, hescape, List.append_assoc, hslash, classNames_cons_of_ne hc, hnames rest hr]
      | false =>
        have hc := not_special hs (by decide : special.contains '.' = true)
        refine ⟨names, fun rest hr => ?_⟩
        rw [List.flatMap_cons, escapeChar_plain hs, List.append_assoc, List.singleton_append, classNames_cons_of_ne hc,
          hnames rest hr]

theorem complete_flatMap (cs : List Char) : Complete (cs.flatMap (escapeChar false)) := by
  obtain ⟨front, back, rfl, hrun⟩ := exists_nameRun_flatMap cs
  obtain ⟨names, hnames⟩ := exists_names_flatMap back
  refine ⟨exists_names_flatMap _, front.flatMap (escapeChar false), names, fun rest hr => ?_⟩
  rw [hrun rest hr]
  exact ⟨rfl, hnames rest hr⟩

theorem Complete.hyphen (h : Complete u) : Complete ('-' :: u) := by
  have hunit (r : List Char) : nameUnit? ('-' :: r) = some (['-'], r) := by
    rw [nameUnit?_of_ne (by decide), if_pos (by decide)]
  obtain ⟨own, hown⟩ := h.own
  obtain ⟨first, names, hdotted⟩ := h.dotted
  refine ⟨⟨own, fun rest hr => ?_⟩, '-' :: first, names, fun rest hr => ?_⟩
  · exact (classNames_cons_of_ne (by decide) _).trans (hown rest hr)
  · rw [List.cons_append, nameRun_of_unit (hunit _)]
    obtain ⟨hfirst, hnames⟩ := hdotted rest hr
    exact ⟨congrArg _ hfirst, hnames⟩

theorem complete_digit (hd : isDigitLike d = true) (cs : List Char) :
    Complete (['\\', '3', d, ' '] ++ cs.flatMap (escapeChar false)) := by
  have hspecial : ∀ c ∈ special, isDigitLike c = false := by decide
  have hnot : special.contains d = false := by
    rw [← Bool.not_eq_true]
    intro hs
    rw [hspecial d (List.contains_iff_mem.1 hs)] at hd
    cases hd
  have hdot := not_special hnot (by decide : special.contains '.' = true)
  have hslash := not_special hnot (by decide : special.contains '\\' = true)
  have hthree : isHexDigit '3' = true := by decide
  have hspace : isHexDigit ' ' = false ∧ isNameChar ' ' = false := by decide
  obtain ⟨names, hnames⟩ := exists_names_flatMap cs
  have hbehind (r : List Char) : classNames (d :: ' ' :: r) = classNames r := by
    rw [classNames_cons_of_ne hdot, classNames_cons_of_ne (by decide)]
  refine ⟨⟨names, fun rest hr => ?_⟩, ?_⟩
  · rw [← hnames rest hr]
    simp only [List.cons_append, List.nil_append]
    rw [classNames_cons_of_ne (by decide), classNames_cons_of_ne (by decide), hbehind]
  · cases hhex : isHexDigit d with
    | true =>
      obtain ⟨front, back, rfl, hrun⟩ := exists_nameRun_flatMap cs
      obtain ⟨names', hnames'⟩ := exists_names_flatMap back
      have hunit (r : List Char) : nameUnit? ('\\' :: '3' :: d :: ' ' :: r) = some (['\\', '3', d, ' '], r) := by
        simp [nameUnit?, hthree, hhex, hspace]
      refine ⟨['\\', '3', d, ' '] ++ front.flatMap (escapeChar false), names', fun rest hr => ?_⟩
      simp only [List.cons_append, List.nil_append]
      rw [nameRun_of_unit (hunit _), hrun rest hr]
      exact ⟨rfl, hnames' rest hr⟩
    | false =>
      -- a digit of another script ends the code, and the blank ends the name
      have hblank : d ≠ ' ' := by
        rintro rfl
        revert hd
        decide
      have hunit (r : List Char) : nameUnit? ('\\' :: '3' :: d :: r) = some (['\\', '3'], d :: r) := by
        simp [nameUnit?, hthree, hhex, hblank]
      have hends (r : List Char) : nameRun (' ' :: r) = ([], ' ' :: r) := by
        apply nameRun_of_none
        rw [nameUnit?_of_ne (by decide), hspace.2, if_neg Bool.false_ne_true]
      have hnext (r : List Char) := nameUnit?_of_ne hslash (' ' :: r)
      cases hname : isNameChar d with
      | true =>
        rw [hname] at hnext
        refine ⟨['\\', '3', d], names, fun rest hr => ?_⟩
        simp only [List.cons_append, List.nil_append]
        rw [nameRun_of_unit (hunit _), nameRun_of_unit (hnext _), hends, ← hnames rest hr]
        exact ⟨rfl, classNames_cons_of_ne (by decide) _⟩
      | false =>
        rw [hname] at hnext
        refine ⟨['\\', '3'], names, fun rest hr => ?_⟩
        simp only [List.cons_append, List.nil_append]
        rw [nameRun_of_unit (hunit _), nameRun_of_none (hnext _), ← hnames rest hr]
        exact ⟨rfl, hbehind _⟩

theorem complete_leading (c : Char) (cs : List Char) :
    Complete (escapeChar true c ++ cs.flatMap (escapeChar false)) := by
  by_cases hd : isDigitLike c = true
  · have hescape : escapeChar true c = ['\\', '3', c, ' '] := by simp [escapeChar, hd]
    rw [hescape]
    exact complete_digit hd cs
  · have hescape : escapeChar true c = escapeChar false c := by simp [escapeChar, hd]
    rw [hescape, ← List.flatMap_cons]
    exact complete_flatMap (c :: cs)

theorem complete_escape (name : List Char) : Complete (escape name) := by
  rw [escape.eq_def]
  split
  · exact complete_flatMap []
  · exact (complete_leading _ _).hyphen
  · exact complete_leading _ _

end Names

section Selectors

variable {k : Context} {token : String} {b before : List Char}

theorem near_back (h : Stated k) (hn : Near a (back k.variant k.selector)) : '.' ∉ a ∧ EndsName a := by
  obtain ⟨hdot, hends⟩ := back_states _ h
  rcases hn with rfl | ⟨hback, hhead⟩
  · exact ⟨hdot, hends⟩
  · rw [hback, List.mem_cons, not_or] at hdot
    refine ⟨hdot.2, ?_⟩
    rw [EndsName, hhead]
    rintro _ ⟨⟩
    decide

theorem exists_classNames (h : Stated k) (token : String) :
    ∃ names, ∀ a rest, Near a (back k.variant k.selector) → EndsName rest →
      classNames (front k.variant ++ (escape token.toList ++ a) ++ rest) = names ++ classNames rest := by
  obtain ⟨names, hnames⟩ := (complete_escape token.toList).exists_names
  refine ⟨(groupNames k.variant).map (escape ·.toList) ++ names, fun a rest ha hr => ?_⟩
  obtain ⟨hdot, hends⟩ := near_back h ha
  rw [List.append_assoc, List.append_assoc, classNames_front _ h, hnames _ (hends.append hr), classNames_append hdot,
    List.append_assoc]

structure Unspaced (token : String) : Prop where
  nonempty : token ≠ ""
  solid : ∀ c ∈ token.toList, isBlank c = false
  unlone : isLoneDigit token.toList = false

theorem Unspaced.framed (h : Unspaced token) : Framed (escape token.toList) [] :=
  framed_escape h.solid (fun he => h.nonempty (String.toList_inj.1 he)) h.unlone

theorem squeeze_build (h : Stated k) (ht : Unspaced token) : ∃ a, Near a (back k.variant k.selector) ∧
    ∀ glue, markup.squeeze glue true (build Vocabulary.variants token k).toList =
      front k.variant ++ (escape token.toList ++ a) := by
  have ha := around_states _ h
  refine ⟨_, settled_near ha.behind (escape token.toList), fun glue => ?_⟩
  have hunit := squeeze_unit ha ht.framed glue
  rwa [List.append_nil, ← List.append_assoc, ← toList_build h] at hunit

theorem trim_build (h : Stated k) (ht : Unspaced token) (hb : ∀ c ∈ before.head?, isBlank c = false) :
    trim (before ++ (build Vocabulary.variants token k).toList) =
      before ++ (front k.variant ++ (escape token.toList ++ back k.variant k.selector)) := by
  have htrim := trim_unit (around_states _ h) ht.framed hb
  rw [List.append_nil] at htrim
  rw [toList_build h, List.append_assoc]
  refine htrim.trans ?_
  dsimp only
  split
  · rename_i hback
    rw [hback]
  · rfl

theorem classNames_squeezed_build (h : Stated k) (ht : Unspaced token) :
    classNames (squeezed (build Vocabulary.variants token k).toList) =
      classNames (trim (build Vocabulary.variants token k).toList) := by
  obtain ⟨names, hnames⟩ := exists_classNames h token
  obtain ⟨a, ha, hsqueeze⟩ := squeeze_build h ht
  have htrim := @trim_build _ _ [] h ht nofun
  have hleft := hnames a [] ha nofun
  have hright := hnames _ [] (.inl rfl) nofun
  rw [List.append_nil] at hleft hright
  rw [List.nil_append, List.nil_append] at htrim
  rw [squeezed, hsqueeze, hleft, htrim, hright]

theorem classNames_between (m : Scheme) {between : List Char} (hb : between = toggleMiddle m ∨ between = comma m)
    (rest : List Char) :
    EndsName (between ++ rest) ∧ classNames (between ++ rest) = escape (modeName m).toList :: classNames rest := by
  obtain ⟨gap, hbetween, hends, hdot⟩ : ∃ gap, between = gap ++ '.' :: (escape (modeName m).toList ++ " ".toList) ∧
      EndsName (gap ++ ['.']) ∧ '.' ∉ gap := by
    rcases hb with rfl | rfl
    · exact ⟨", ".toList, by cases m <;> decide, by decide, by decide⟩
    · exact ⟨",".toList, by cases m <;> decide, by decide, by decide⟩
  obtain ⟨hmode, hmode'⟩ : (∀ x ∈ (modeName m).toList, isTokenChar x = true) ∧ escape (modeName m).toList ≠ [] := by
    cases m <;> decide
  have htext : between ++ rest = gap ++ '.' :: (escape (modeName m).toList ++ (" ".toList ++ rest)) := by
    rw [hbetween]
    simp
  have hspace : EndsName (" ".toList ++ rest) := by
    rintro _ ⟨⟩
    decide
  have hnone : '.' ∉ " ".toList := by decide
  refine ⟨?_, ?_⟩
  · rw [htext]
    cases gap with
    | nil => exact hends
    | cons c gap => exact hends
  · rw [htext, classNames_append hdot, classNames_escape hmode hmode' hspace, classNames_append hnone]

theorem classNames_squeezed_toggled (h : Stated k) (ht : Unspaced token) (m : Scheme) :
    classNames (squeezed (toggled m (build Vocabulary.variants token k)).toList) =
      classNames (trim (toggled m (build Vocabulary.variants token k)).toList) := by
  obtain ⟨names, hnames⟩ := exists_classNames h token
  have hfront : '.' ∉ toggleFront m := by cases m <;> decide
  have htwice {a between : List Char} (ha : Near a (back k.variant k.selector))
      (hb : between = toggleMiddle m ∨ between = comma m) :
      classNames (toggleFront m ++ (front k.variant ++ (escape token.toList ++ a) ++
        (between ++ (front k.variant ++ (escape token.toList ++ a))))) =
        names ++ escape (modeName m).toList :: names := by
    obtain ⟨hends, hbetween⟩ := classNames_between m hb _
    have hlast := hnames a [] ha nofun
    rw [List.append_nil, classNames_nil, List.append_nil] at hlast
    rw [classNames_append hfront, hnames a _ ha hends, hbetween, hlast]
  have hleft : classNames (squeezed (toggled m (build Vocabulary.variants token k)).toList) =
      names ++ escape (modeName m).toList :: names := by
    obtain ⟨a, ha, hsqueeze⟩ := squeeze_build h ht
    rw [toList_toggled, squeezed_toggled (head?_build token h), hsqueeze]
    exact htwice ha (.inr rfl)
  have hright : classNames (trim (toggled m (build Vocabulary.variants token k)).toList) =
      names ++ escape (modeName m).toList :: names := by
    have hfirst : ∀ c ∈ (toggleFront m ++ ((build Vocabulary.variants token k).toList ++ toggleMiddle m)).head?,
        isBlank c = false := by
      rw [List.head?_append, (toggles m).first]
      rintro _ ⟨⟩
      decide
    have htrim := trim_build h ht hfirst
    rw [List.append_assoc, List.append_assoc] at htrim
    rw [toList_toggled, htrim, toList_build h]
    have hall := htwice (.inl rfl) (.inl rfl)
    simpa using hall
  rw [hleft, hright]

theorem showsState_near (h : Near a b) (x : List Char) : showsState (x ++ a) = showsState (x ++ b) := by
  rcases h with rfl | ⟨rfl, hhead⟩
  · rfl
  · have hspace : Parting ' ' := by decide +kernel
    have hgreater : Parting '>' := by decide +kernel
    obtain ⟨r, rfl⟩ := List.head?_eq_some_iff.1 hhead
    rw [showsState_append_cons hgreater, showsState_append_cons hspace, showsState_cons hgreater]

theorem showsState_squeezed_build (h : Stated k) (ht : Unspaced token) (glue : Bool) :
    showsState (markup.squeeze glue true (build Vocabulary.variants token k).toList) =
      showsState (build Vocabulary.variants token k).toList := by
  obtain ⟨a, ha, hsqueeze⟩ := squeeze_build h ht
  rw [hsqueeze, toList_build h, ← List.append_assoc]
  exact showsState_near ha _

theorem showsState_squeezed_toggled (h : Stated k) (ht : Unspaced token) (m : Scheme) :
    showsState (squeezed (toggled m (build Vocabulary.variants token k)).toList) =
      showsState (toggled m (build Vocabulary.variants token k)).toList := by
  obtain ⟨between, hcomma, hnone⟩ : ∃ between, comma m = ',' :: (between ++ [' ']) ∧ ':' ∉ between := by
    cases m
    · exact ⟨".dark-mode".toList, by decide, by decide⟩
    · exact ⟨".light-mode".toList, by decide, by decide⟩
  rw [showsState_toggled, toList_toggled, squeezed_toggled (head?_build token h), hcomma, showsState_twice m hnone,
    showsState_squeezed_build h ht]

end Selectors

end Stylesheet.Statistics

end UtilityCss
