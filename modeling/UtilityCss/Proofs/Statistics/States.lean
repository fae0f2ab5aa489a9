import UtilityCss.Proofs.Statistics.Sheet
import UtilityCss.Proofs.Text.Search

namespace UtilityCss

open Text Stylesheet Vocabulary

namespace Stylesheet.Statistics

def isWordSuffix (suffix : String) : Bool :=
  suffix.toList.tail.all fun c => isAsciiLetter c || c == '-'

def namesState (token : String) : Bool :=
  variants.values.any fun suffix => isWordSuffix suffix && contains suffix.toList token.toList

def Parting (c : Char) : Prop :=
  ∀ suffix ∈ variants.values, c ∉ suffix.toList

instance (c : Char) : Decidable (Parting c) :=
  inferInstanceAs (Decidable (∀ suffix ∈ variants.values, _))

variable {a b : List Char} {c : Char}

theorem showsState_eq_true_iff {s : List Char} :
    showsState s = true ↔ ∃ suffix ∈ variants.values, suffix.toList <:+: s := by
  simp only [showsState, List.any_eq_true, contains_iff]

theorem colon_mem_suffix : ∀ suffix ∈ variants.values, ':' ∈ suffix.toList := by
  decide +kernel

theorem showsState_of_not_mem (h : ':' ∉ a) : showsState a = false := by
  rw [← Bool.not_eq_true, showsState_eq_true_iff]
  rintro ⟨suffix, hs, hin⟩
  exact h (hin.subset (colon_mem_suffix suffix hs))

theorem showsState_append_cons (h : Parting c) (a b : List Char) :
    showsState (a ++ c :: b) = (showsState a || showsState b) := by
  rw [Bool.eq_iff_iff, Bool.or_eq_true, showsState_eq_true_iff, showsState_eq_true_iff, showsState_eq_true_iff]
  constructor
  · rintro ⟨suffix, hs, hin⟩
    exact ((infix_append_cons_iff (h suffix hs)).1 hin).imp (fun ha => ⟨suffix, hs, ha⟩) fun hb => ⟨suffix, hs, hb⟩
  · rintro (⟨suffix, hs, ha⟩ | ⟨suffix, hs, hb⟩)
    · exact ⟨suffix, hs, (infix_append_cons_iff (h suffix hs)).2 (.inl ha)⟩
    · exact ⟨suffix, hs, (infix_append_cons_iff (h suffix hs)).2 (.inr hb)⟩

theorem showsState_cons (h : Parting c) (a : List Char) : showsState (c :: a) = showsState a := by
  have hnil : showsState [] = false := showsState_of_not_mem (by simp)
  have happend := showsState_append_cons h [] a
  rwa [hnil, Bool.false_or] at happend

theorem showsState_append_of_parting (h : ∀ c ∈ b, Parting c) (a : List Char) :
    showsState (a ++ b) = showsState a := by
  cases b with
  | nil => rw [List.append_nil]
  | cons c b =>
    rw [List.forall_mem_cons] at h
    have hcolon : ¬ Parting ':' := by decide +kernel
    rw [showsState_append_cons h.1, showsState_of_not_mem fun hm => hcolon (h.2 _ hm), Bool.or_false]

theorem showsState_parting_append (h : ∀ c ∈ a, Parting c) (b : List Char) : showsState (a ++ b) = showsState b := by
  induction a with
  | nil => rfl
  | cons c a ih =>
    rw [List.forall_mem_cons] at h
    rw [List.cons_append, showsState_cons h.1, ih h.2]

theorem parting_of_blank (h : isBlank c = true) : Parting c := by
  have hall : ∀ suffix ∈ variants.values, ∀ d ∈ suffix.toList, isBlank d = false := by decide +kernel
  exact fun suffix hs => not_mem_of_class (hall suffix hs) h

theorem showsState_trim (s : List Char) : showsState (trim s) = showsState s := by
  obtain ⟨front, back, hfront, hback, ht, _⟩ := trim_spec s
  conv_rhs => rw [ht]
  rw [showsState_append_of_parting fun c hc => parting_of_blank (hback c hc),
    showsState_parting_append fun c hc => parting_of_blank (hfront c hc)]

theorem showsState_twice (m : Scheme) {between : List Char} (h : ':' ∉ between) (s : List Char) :
    showsState (toggleFront m ++ (s ++ (',' :: (between ++ [' ']) ++ s))) = showsState s := by
  obtain ⟨front, hfront, hnone⟩ : ∃ front, toggleFront m = front ++ [' '] ∧ ':' ∉ front := by
    cases m
    · exact ⟨"[data-theme=\"dark\"]".toList, by decide, by decide⟩
    · exact ⟨"[data-theme=\"light\"]".toList, by decide, by decide⟩
  have hspace : Parting ' ' := by decide +kernel
  have hcomma : Parting ',' := by decide +kernel
  have htext : toggleFront m ++ (s ++ (',' :: (between ++ [' ']) ++ s)) =
      front ++ ' ' :: (s ++ ',' :: (between ++ ' ' :: s)) := by
    rw [hfront]
    simp
  rw [htext, showsState_append_cons hspace, showsState_append_cons hcomma, showsState_append_cons hspace,
    showsState_of_not_mem hnone, showsState_of_not_mem h, Bool.false_or, Bool.false_or, Bool.or_self]

theorem showsState_toggled (m : Scheme) (s : String) : showsState (toggled m s).toList = showsState s.toList := by
  obtain ⟨middle, hmiddle, hnone⟩ : ∃ middle, toggleMiddle m = ',' :: (middle ++ [' ']) ∧ ':' ∉ middle := by
    cases m
    · exact ⟨" .dark-mode".toList, by decide, by decide⟩
    · exact ⟨" .light-mode".toList, by decide, by decide⟩
  rw [toList_toggled, hmiddle]
  exact showsState_twice m hnone s.toList

def Untouched (c : Char) : Prop :=
  Selector.special.contains c = false ∧ isDigitLike c = false ∧ c ∉ ['\\', '3', ' ']

instance (c : Char) : Decidable (Untouched c) :=
  inferInstanceAs (Decidable (_ ∧ _))

theorem untouched_of_wordSuffix : ∀ suffix ∈ variants.values, isWordSuffix suffix = true →
    ∃ word, suffix.toList = ':' :: word ∧ ∀ c ∈ word, Untouched c := by
  have h : ∀ suffix ∈ variants.values, isWordSuffix suffix = true →
      suffix.toList = ':' :: suffix.toList.tail ∧ ∀ c ∈ suffix.toList.tail, Untouched c := by
    decide +kernel
  exact fun suffix hs hword => ⟨_, h suffix hs hword⟩

variable {word name : List Char}

theorem prefix_flatMap_escapeChar_iff (hw : ∀ c ∈ word, Untouched c) :
    word <+: name.flatMap (Selector.escapeChar false) ↔ word <+: name := by
  induction name generalizing word with
  | nil => rfl
  | cons c name ih =>
    cases word with
    | nil => simp
    | cons w word =>
      rw [List.forall_mem_cons] at hw
      obtain ⟨⟨hspecial, _, hslash⟩, hw⟩ := hw
      rw [List.flatMap_cons, Selector.escapeChar, Bool.false_and, if_neg Bool.false_ne_true]
      split
      · rename_i hc
        have hne : w ≠ c := by
          rintro rfl
          rw [hspecial] at hc
          cases hc
        have hne' : w ≠ '\\' := fun he => hslash (by simp [he])
        simp [List.cons_prefix_cons, hne, hne']
      · rw [List.singleton_append, List.cons_prefix_cons, List.cons_prefix_cons, ih hw]

theorem infix_flatMap_escapeChar_iff (hw : ∀ c ∈ word, Untouched c) :
    ':' :: word <:+: name.flatMap (Selector.escapeChar false) ↔ ':' :: word <:+: name := by
  induction name with
  | nil => rfl
  | cons c name ih =>
    rw [List.flatMap_cons, Selector.escapeChar, Bool.false_and, if_neg Bool.false_ne_true]
    split
    · have hslash : ¬ ':' = '\\' := by decide
      rw [List.cons_append, List.singleton_append, List.infix_cons_iff, List.infix_cons_iff, List.cons_prefix_cons,
        List.cons_prefix_cons, prefix_flatMap_escapeChar_iff hw, ih, List.infix_cons_iff, List.cons_prefix_cons]
      simp [hslash]
    · rename_i hc
      have hne : ¬ ':' = c := by
        rintro rfl
        exact hc (by decide)
      rw [List.singleton_append, List.infix_cons_iff, List.cons_prefix_cons, ih, List.infix_cons_iff,
        List.cons_prefix_cons]
      simp [hne]

theorem infix_escape_iff (hw : ∀ c ∈ word, Untouched c) (name : List Char) :
    ':' :: word <:+: Selector.escape name ↔ ':' :: word <:+: name := by
  have hskip {c : Char} (hc : ':' ≠ c) (r : List Char) : ':' :: word <:+: c :: r ↔ ':' :: word <:+: r := by
    simp [List.infix_cons_iff, List.cons_prefix_cons, hc]
  have hlead (c : Char) (r : List Char) :
      ':' :: word <:+: Selector.escapeChar true c ++ r.flatMap (Selector.escapeChar false) ↔
        ':' :: word <:+: c :: r := by
    by_cases hd : isDigitLike c = true
    · have hne : ':' ≠ c := by
        rintro rfl
        revert hd
        decide +kernel
      have hescape : Selector.escapeChar true c = ['\\', '3', c, ' '] := by simp [Selector.escapeChar, hd]
      rw [hescape, List.cons_append, List.cons_append, List.cons_append, List.singleton_append, hskip (by decide),
        hskip (by decide), hskip hne, hskip (by decide), hskip hne, infix_flatMap_escapeChar_iff hw]
    · have hescape : Selector.escapeChar true c = Selector.escapeChar false c := by simp [Selector.escapeChar, hd]
      rw [hescape, ← List.flatMap_cons, infix_flatMap_escapeChar_iff hw]
  rw [Selector.escape.eq_def]
  split
  · rfl
  · rw [List.cons_append, hskip (by decide), hskip (by decide), hlead]
  · exact hlead _ _

theorem not_infix_escape {suffix : String} (hs : suffix ∈ variants.values) (hword : isWordSuffix suffix = false)
    (name : List Char) : ¬ suffix.toList <:+: Selector.escape name := by
  have hpair : ∀ suffix ∈ variants.values, isWordSuffix suffix = false →
      ¬ Apart ':' ':' suffix.toList ∨ ¬ Apart 'd' '(' suffix.toList := by
    decide +kernel
  intro hin
  have hcolon := (Selector.apart_escape (by decide : ':' ≠ '\\') (by decide : ':' ≠ '\\') (by decide) name).1
  have hopen := (Selector.apart_escape (by decide : 'd' ≠ '\\') (by decide : '(' ≠ '\\') (by decide) name).1
  rcases hpair suffix hs hword with hnot | hnot
  · refine hnot ?_
    exact List.IsChain.infix hcolon hin
  · refine hnot ?_
    exact List.IsChain.infix hopen hin

theorem showsState_escape (token : String) : showsState (Selector.escape token.toList) = namesState token := by
  rw [showsState, namesState, Bool.eq_iff_iff, List.any_eq_true, List.any_eq_true]
  refine exists_congr fun suffix => and_congr_right fun hs => ?_
  rw [← Bool.eq_iff_iff]
  cases hword : isWordSuffix suffix with
  | true =>
    obtain ⟨word, htext, huntouched⟩ := untouched_of_wordSuffix suffix hs hword
    rw [Bool.true_and, Bool.eq_iff_iff, contains_iff, contains_iff, htext, infix_escape_iff huntouched]
  | false =>
    rw [Bool.false_and, ← Bool.not_eq_true, contains_iff]
    exact not_infix_escape hs hword _

variable {d : Context}

theorem showsState_build (h : Selector.Stated d) (token : String) :
    showsState (Selector.build variants token d).toList = (d.variant.isSome || namesState token) := by
  have hplain : ∀ s ∈ Selector.states, s.1 = none →
      (∀ c ∈ Selector.front s.1, Parting c) ∧ ∀ c ∈ Selector.back s.1 s.2, Parting c := by
    decide +kernel
  have hstate : ∀ s ∈ Selector.states, s.1.isSome = true →
      showsState (Selector.front s.1) = true ∨ showsState (Selector.back s.1 s.2) = true := by
    decide +kernel
  have hmono {part text : List Char} (hp : part <:+: text) (hs : showsState part = true) : showsState text = true := by
    obtain ⟨suffix, hm, hin⟩ := showsState_eq_true_iff.1 hs
    exact showsState_eq_true_iff.2 ⟨suffix, hm, hin.trans hp⟩
  rw [Selector.toList_build h]
  cases hv : d.variant with
  | none =>
    obtain ⟨hfront, hback⟩ := hplain _ h hv
    rw [hv] at hfront hback
    rw [showsState_append_of_parting hback, showsState_parting_append hfront, showsState_escape]
    rfl
  | some v =>
    have hshows := hstate _ h (by rw [hv]; rfl)
    rw [hv] at hshows
    rw [Option.isSome_some, Bool.true_or]
    rcases hshows with hs | hs
    · exact hmono ⟨[], _, (List.append_assoc ..).symm⟩ hs
    · exact hmono ⟨_, [], List.append_nil _⟩ hs

theorem showsState_of_mem_blocksOf {breakpoints : Table String String} {token : String} {r : Rule}
    (h : Selector.Stated r.context) {b : Place × Block} (hb : b ∈ blocksOf breakpoints token r) :
    showsState b.2.selector.toList = (r.context.variant.isSome || namesState token) := by
  rw [← showsState_build h]
  rw [blocksOf] at hb
  split at hb
  · rw [List.mem_singleton.1 hb]
  · rename_i m _
    simp only [List.mem_cons, List.not_mem_nil, or_false] at hb
    rcases hb with rfl | rfl
    · exact showsState_toggled m _
    · rfl

theorem countP_or {α : Type} (f : α → Option String) (q : α → Bool) (xs : List α) :
    xs.countP (fun x => (f x).isSome || q x) =
      xs.countP (fun x => (f x).isSome) + xs.countP fun x => (f x).isNone && q x := by
  induction xs with
  | nil => rfl
  | cons x xs ih =>
    rw [List.countP_cons, List.countP_cons, List.countP_cons, ih]
    cases f x <;> cases q x <;> simp <;> omega

variable {c : Config} {classes : List String} {banner : Bool} {g : Generation}

theorem stateVariantSelectors_eq_countP (h : c.generate classes banner = .ok g)
    (hbanner : banner = false ∨ c.bannerText = "") (hrow : ∀ e ∈ g.resolved.entries, '\n' ∉ e.1.toList)
    (hq : QuietSheet c g.resolved) (widths : Table String String) :
    (ofText g.css widths).stateVariantSelectors =
      (placed breakpoints g.resolved).countP fun b => showsState b.2.selector.toList := by
  have hleading : (leading c).countP showsState = 0 := by
    have hfront : ∀ s ∈ ":root".toList :: Config.preflightRules.map fun r => r.1.toList, ¬ showsState s = true := by
      decide +kernel
    exact List.countP_eq_zero.2 fun s hs => hfront s (leading_subset c hs)
  have hstat : (ofText g.css widths).stateVariantSelectors =
      (ruleSelectors (dropComments g.css.toList)).countP showsState := rfl
  have hblocks := (perm_blocksInOrder breakpoints g.resolved).countP_eq fun b => showsState b.selector.toList
  rw [hstat, ruleSelectors_generate h hbanner hrow hq, List.countP_append, hleading, Nat.zero_add, List.countP_map]
  simp only [Function.comp_def, showsState_trim]
  rw [hblocks, List.countP_map]
  rfl

/-- Selectors with a state are counted, and those of classes whose names hold the suffix of a state. -/
theorem state_variants_counted (h : c.generate classes banner = .ok g)
    (hbanner : banner = false ∨ c.bannerText = "")
    (hblank : ∀ token ∈ classes, ∀ x ∈ token.toList, isBlank x = false)
    (hq : QuietSheet c g.resolved) (widths : Table String String) :
    (ofText g.css widths).stateVariantSelectors =
      (attributed breakpoints g.resolved).countP (fun w => w.1.2.context.variant.isSome) +
        (attributed breakpoints g.resolved).countP
          fun w => w.1.2.context.variant.isNone && namesState w.1.1 := by
  have hrow : ∀ e ∈ g.resolved.entries, '\n' ∉ e.1.toList := by
    intro e he hm
    have hnewline := hblank e.1 ((Config.mem_resolved h).1 he).1 '\n' hm
    revert hnewline
    decide
  have hshows : ∀ w ∈ attributed breakpoints g.resolved,
      showsState w.2.2.selector.toList = (w.1.2.context.variant.isSome || namesState w.1.1) := by
    intro w hw
    obtain ⟨e, he, r, hr, hk, hb⟩ := (mem_attributed _ _).1 hw
    obtain ⟨s, hs, hcontext⟩ := Rule.exists_merge_iff.1 ⟨r, hr, rfl⟩
    have hstated := (statedRules_generate h hrow e he).2 s hs
    rw [← hcontext] at hstated
    rw [hk, showsState_of_mem_blocksOf hstated hb]
  rw [stateVariantSelectors_eq_countP h hbanner hrow hq, ← map_attributed, List.countP_map, ← countP_or]
  apply List.countP_congr
  intro w hw
  rw [Function.comp_apply, hshows w hw]

def hoveringRules : List (String × List Rule) := [
  ("dark:focus:p-2", [⟨["padding: 0.5rem;"], ⟨none, some "dark", some "focus", none⟩⟩]),
  ("hover:p-1", [⟨["padding: 0.25rem;"], ⟨none, none, some "hover", none⟩⟩]),
  ("m-[a:hover]", [⟨["margin: a:hover;"], ⟨none, none, none, none⟩⟩])]

theorem resolve_hoveringRules : ∀ e ∈ hoveringRules,
    Config.standard.resolver.resolve [] e.1 = .ok e.2 ∧ e.2 ≠ [] := by
  rw [Config.resolver_eq_listed]
  exact Resolver.resolve_entries _ (by decide +kernel)

theorem quiet_hoveringRules : ∀ e ∈ hoveringRules,
    ('\x7b' ∉ e.1.toList ∧ '\x7d' ∉ e.1.toList) ∧ ∀ r ∈ e.2, ∀ line ∈ r.lines, Quiet line.toList := by
  decide

theorem state_variants_counted_hovering :
    ∃ g, Config.standard.generate ["dark:focus:p-2", "hover:p-1", "m-[a:hover]"] false = .ok g ∧
      QuietSheet .standard g.resolved ∧ (ofText g.css breakpoints).stateVariantSelectors = 4 := by
  obtain ⟨g, hg, hentries⟩ := Config.exists_entries_generate (by decide) (by decide) resolve_hoveringRules false
  have hquiet := quietSheet_standard (c := .standard) rfl hentries quiet_hoveringRules
  refine ⟨g, hg, hquiet, ?_⟩
  rw [state_variants_counted hg (.inl rfl) (by decide) hquiet, attributed, hentries]
  decide +kernel

theorem hovering_value_counted :
    ∃ g, Config.standard.generate ["m-[a:hover]"] false = .ok g ∧
      (ofText g.css breakpoints).stateVariantSelectors = 1 ∧
      (attributed breakpoints g.resolved).countP (fun w => w.1.2.context.variant.isSome) = 0 := by
  have hmem {e : String × List Rule} (he : e ∈ hoveringRules.drop 2) : e ∈ hoveringRules := List.mem_of_mem_drop he
  obtain ⟨g, hg, hentries⟩ := Config.exists_entries_generate (by decide) (by decide)
    (fun e he => resolve_hoveringRules e (hmem he)) false
  have hquiet := quietSheet_standard (c := .standard) rfl hentries fun e he => quiet_hoveringRules e (hmem he)
  refine ⟨g, hg, ?_, ?_⟩
  · rw [stateVariantSelectors_eq_countP hg (.inl rfl) (hentries ▸ by decide) hquiet, placed, hentries]
    decide +kernel
  · rw [attributed, hentries]
    decide +kernel

end Stylesheet.Statistics

end UtilityCss
