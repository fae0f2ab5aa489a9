import UtilityCss.Proofs.Expansion.Distribution
import UtilityCss.Proofs.Statistics.Names
import UtilityCss.Proofs.Statistics.Sheet

namespace UtilityCss.Stylesheet.Statistics

open Text Selector

def Names (token : String) (c : Context) (x : List Char) : Prop :=
  x = lastName token c ∨ (schemeOf c).isSome = true ∧ x = escape token.toList ∨
    ∃ n ∈ helperNames c, x = escape n.toList

section Blocks

variable {breakpoints : Table String String} {token : String} {r : Rule} {x : List Char}

theorem mem_classNames_blocksOf_iff (h : Stated r.context) (ht : ∀ c ∈ token.toList, isTokenChar c = true)
    (hne : token ≠ "") :
    (∃ b ∈ blocksOf breakpoints token r, x ∈ classNames (trim b.2.selector.toList)) ↔
      Names token r.context x := by
  have hgroup : (∃ n ∈ groupNames r.context.variant, escape n.toList = x) ↔
      ∃ n ∈ groupNames r.context.variant, x = escape n.toList := by
    simp only [eq_comm]
  rw [Names, helperNames, blocksOf, ← schemeOf_eq]
  cases schemeOf r.context with
  | none =>
    simp only [List.mem_singleton, exists_eq_left, classNames_build h ht hne, List.mem_append, List.mem_map, hgroup,
      Option.isSome_none, Bool.false_eq_true, false_and, false_or, Option.map_none, Option.toList_none,
      List.not_mem_nil, or_false]
    exact or_comm
  | some m =>
    simp only [List.mem_cons, List.not_mem_nil, or_false, exists_eq_left, classNames_build h ht hne,
      classNames_toggled h ht hne, List.mem_append, List.mem_map, hgroup, Option.isSome_some, true_and,
      Option.map_some, Option.toList_some, or_and_right, exists_or]
    grind

end Blocks

def Nameable (rules : Table String (List Rule)) : Prop :=
  ∀ e ∈ rules.entries, (∀ c ∈ e.1.toList, isTokenChar c = true) ∧ e.1 ≠ "" ∧ e.2 ≠ []

section Names

variable {breakpoints : Table String String} {rules : Table String (List Rule)} {x : List Char}

def opened (rs : List Rule) : Bool :=
  rs.any fun r => !endsInName r.context || (schemeOf r.context).isSome

def closed (rs : List Rule) : Bool :=
  rs.any fun r => endsInName r.context

/-- A lone digit that is written with and without the blank at its end is taken for two classes. -/
def foundTwice (e : String × List Rule) : Bool :=
  isLoneDigit e.1.toList && opened e.2 && closed e.2

def foundName (e : String × List Rule) : List Char :=
  if opened e.2 then escape e.1.toList else trim (escape e.1.toList)

def helperClasses : List String :=
  ["group", "dark-mode", "light-mode"]

def helpers (rules : Table String (List Rule)) : List String :=
  helperClasses.filter fun n =>
    rules.entries.any fun e => e.2.any fun r => (helperNames r.context).contains n

theorem helperNames_subset (c : Context) : helperNames c ⊆ helperClasses := by
  have hgroup : groupNames c.variant ⊆ ["group"] := by
    rw [groupNames]
    split <;> simp
  have hmode (m : Scheme) : modeName m ∈ ["dark-mode", "light-mode"] := by
    cases m <;> decide
  intro n hn
  rcases List.mem_append.1 hn with hn | hn
  · exact List.mem_cons.2 (.inl (List.mem_singleton.1 (hgroup hn)))
  · obtain ⟨m, _, rfl⟩ := Option.map_eq_some_iff.1 (Option.mem_toList.1 hn)
    exact List.mem_cons_of_mem _ (hmode m)

theorem mem_helpers_iff {n : String} :
    n ∈ helpers rules ↔ ∃ e ∈ rules.entries, ∃ r ∈ e.2, n ∈ helperNames r.context := by
  simp only [helpers, List.mem_filter, List.any_eq_true, List.contains_iff_mem]
  constructor
  · exact fun h => h.2
  · rintro ⟨e, he, r, hr, hn⟩
    exact ⟨helperNames_subset _ hn, e, he, r, hr, hn⟩

theorem opened_iff {rs : List Rule} : opened rs = true ↔
    ∃ r ∈ rs, endsInName r.context = false ∨ (schemeOf r.context).isSome = true := by
  simp only [opened, List.any_eq_true, Bool.or_eq_true, Bool.not_eq_true']

theorem ownName_iff {e : String × List Rule} (ht : ∀ c ∈ e.1.toList, isTokenChar c = true) (hne : e.2 ≠ []) :
    (∃ r ∈ e.2, x = lastName e.1 r.context ∨ (schemeOf r.context).isSome = true ∧ x = escape e.1.toList) ↔
      x = foundName e ∨ foundTwice e = true ∧ x = trim (escape e.1.toList) := by
  have hlast {r : Rule} (h : endsInName r.context = true) : lastName e.1 r.context = trim (escape e.1.toList) := by
    rw [lastName, if_pos h]
  have hbare {r : Rule} (h : endsInName r.context = false) : lastName e.1 r.context = escape e.1.toList := by
    rw [lastName, h, if_neg Bool.false_ne_true]
  have hfound (h : opened e.2 = true) : foundName e = escape e.1.toList := if_pos h
  constructor
  · rintro ⟨r, hr, rfl | ⟨hscheme, rfl⟩⟩
    · -- at the end of a selector the name stands for itself, unless its blank is lost there only
      cases hends : endsInName r.context with
      | false => exact .inl ((hbare hends).trans (hfound (opened_iff.2 ⟨r, hr, .inl hends⟩)).symm)
      | true =>
        have hclosed : closed e.2 = true := List.any_eq_true.2 ⟨r, hr, hends⟩
        rw [hlast hends]
        by_cases hopened : opened e.2 = true
        · cases hlone : isLoneDigit e.1.toList with
          | true => exact .inr ⟨by rw [foundTwice, hlone, hopened, hclosed]; rfl, rfl⟩
          | false => exact .inl ((trim_escape_of_not_lone ht hlone).trans (hfound hopened).symm)
        · exact .inl (if_neg hopened).symm
    · exact .inl (hfound (opened_iff.2 ⟨r, hr, .inr hscheme⟩)).symm
  · rintro (rfl | ⟨htwice, rfl⟩)
    · by_cases hopened : opened e.2 = true
      · obtain ⟨r, hr, hends | hscheme⟩ := opened_iff.1 hopened
        · exact ⟨r, hr, .inl ((hfound hopened).trans (hbare hends).symm)⟩
        · exact ⟨r, hr, .inr ⟨hscheme, hfound hopened⟩⟩
      · obtain ⟨r, hr⟩ := List.exists_mem_of_ne_nil e.2 hne
        have hends : endsInName r.context = true := by
          by_contra hnot
          exact hopened (opened_iff.2 ⟨r, hr, .inl (Bool.eq_false_iff.2 hnot)⟩)
        exact ⟨r, hr, .inl ((if_neg hopened).trans (hlast hends).symm)⟩
    · rw [foundTwice, Bool.and_eq_true] at htwice
      obtain ⟨r, hr, hends⟩ := List.any_eq_true.1 htwice.2
      exact ⟨r, hr, .inl (hlast hends).symm⟩

def foundNames (rules : Table String (List Rule)) : List (List Char) :=
  rules.entries.map foundName ++
    ((rules.entries.filter foundTwice).map (fun e => trim (escape e.1.toList)) ++
      ((helpers rules).filter (· ∉ rules.keys)).map fun n => escape n.toList)

theorem length_foundNames (rules : Table String (List Rule)) :
    (foundNames rules).length =
      rules.size + rules.entries.countP foundTwice + (helpers rules).countP (· ∉ rules.keys) := by
  simp only [foundNames, List.length_append, List.length_map, ← List.countP_eq_length_filter, Table.size]
  omega

theorem unescape_foundName {e : String × List Rule} (ht : ∀ c ∈ e.1.toList, isTokenChar c = true) :
    unescape (foundName e) = e.1.toList := by
  rw [foundName]
  split
  · exact (unescape_escape ht).1
  · exact (unescape_escape ht).2

theorem helper_spelled : ∀ n ∈ helperClasses,
    (∀ c ∈ n.toList, isTokenChar c = true) ∧ isLoneDigit n.toList = false := by
  decide

theorem nodup_of_unescape {α : Type} {xs : List α} (key : α → String) {f : α → List Char}
    (hd : (xs.map key).Nodup) (h : ∀ a ∈ xs, unescape (f a) = (key a).toList) : (xs.map f).Nodup := by
  have hmap : (xs.map f).map unescape = (xs.map key).map String.toList := by
    rw [List.map_map, List.map_map]
    exact List.map_congr_left h
  refine List.Nodup.of_map unescape ?_
  rw [hmap]
  exact hd.map fun _ _ => String.toList_inj.1

theorem foundName_ne_trim {e d : String × List Rule} (h : Nameable rules) (he : e ∈ rules.entries)
    (hd : d ∈ rules.entries) (htwice : foundTwice d = true) : foundName e ≠ trim (escape d.1.toList) := by
  intro heq
  have hname := congrArg unescape heq
  rw [unescape_foundName (h e he).1, (unescape_escape (h d hd).1).2, String.toList_inj] at hname
  obtain rfl := List.inj_on_of_nodup_map rules.distinct he hd hname
  rw [foundTwice, Bool.and_eq_true, Bool.and_eq_true] at htwice
  obtain ⟨⟨hlone, hopened⟩, _⟩ := htwice
  have hescape := (escape_of_lone (h e he).1 hlone).1
  rw [foundName, if_pos hopened] at heq
  have hlength := congrArg List.length (heq.symm.trans hescape)
  rw [List.length_append, List.length_singleton] at hlength
  omega

theorem nodup_foundNames (h : Nameable rules) : (foundNames rules).Nodup := by
  have hhelpers : ((helpers rules).filter (· ∉ rules.keys)).Nodup :=
    .filter _ (.filter _ (by decide))
  have hspelled {n : String} (hn : n ∈ helpers rules) : unescape (escape n.toList) = n.toList :=
    (unescape_escape (helper_spelled n (List.mem_filter.1 hn).1).1).1
  have hother {e : String × List Rule} {a : List Char} {n : String} (he : e ∈ rules.entries)
      (hn : n ∈ helpers rules) (hnot : decide (n ∉ rules.keys) = true) (ha : unescape a = e.1.toList) :
      a ≠ escape n.toList := by
    rintro rfl
    rw [hspelled hn, String.toList_inj] at ha
    exact of_decide_eq_true hnot (ha ▸ List.mem_map_of_mem he)
  refine List.nodup_append.2 ⟨?_, List.nodup_append.2 ⟨?_, ?_, ?_⟩, ?_⟩
  · exact nodup_of_unescape Prod.fst rules.distinct fun e he => unescape_foundName (h e he).1
  · have hsub : ((rules.entries.filter foundTwice).map Prod.fst).Nodup :=
      (List.filter_sublist.map Prod.fst).nodup rules.distinct
    exact nodup_of_unescape Prod.fst hsub fun e he => (unescape_escape (h e (List.mem_filter.1 he).1).1).2
  · refine nodup_of_unescape id ?_ fun n hn => hspelled (List.mem_filter.1 hn).1
    rwa [List.map_id]
  · intro a ha b hb hab
    obtain ⟨e, he, rfl⟩ := List.mem_map.1 ha
    obtain ⟨n, hn, rfl⟩ := List.mem_map.1 hb
    obtain ⟨he, _⟩ := List.mem_filter.1 he
    obtain ⟨hn, hnot⟩ := List.mem_filter.1 hn
    exact hother he hn hnot (unescape_escape (h e he).1).2 hab
  · intro a ha b hb hab
    obtain ⟨e, he, rfl⟩ := List.mem_map.1 ha
    rcases List.mem_append.1 hb with hb | hb
    · obtain ⟨d, hd, rfl⟩ := List.mem_map.1 hb
      obtain ⟨hd, htwice⟩ := List.mem_filter.1 hd
      exact foundName_ne_trim h he hd htwice hab
    · obtain ⟨n, hn, rfl⟩ := List.mem_map.1 hb
      obtain ⟨hn, hnot⟩ := List.mem_filter.1 hn
      exact hother he hn hnot (unescape_foundName (h e he).1) hab

theorem foundName_of_helper {e : String × List Rule} (hn : e.1 ∈ helpers rules) : foundName e = escape e.1.toList := by
  obtain ⟨ht, hlone⟩ := helper_spelled e.1 (List.mem_filter.1 hn).1
  rw [foundName, trim_escape_of_not_lone ht hlone, ite_self]

theorem mem_foundNames_iff (h : Nameable rules) :
    x ∈ foundNames rules ↔ ∃ e ∈ rules.entries, ∃ r ∈ e.2, Names e.1 r.context x := by
  have hown {e : String × List Rule} (he : e ∈ rules.entries) :=
    ownName_iff (x := x) (h e he).1 (h e he).2.2
  simp only [foundNames, List.mem_append, List.mem_map, List.mem_filter]
  constructor
  · rintro (⟨e, he, hx⟩ | ⟨e, ⟨he, htwice⟩, hx⟩ | ⟨n, ⟨hn, _⟩, hx⟩)
    · obtain ⟨r, hr, hname⟩ := (hown he).2 (.inl hx.symm)
      exact ⟨e, he, r, hr, hname.imp_right .inl⟩
    · obtain ⟨r, hr, hname⟩ := (hown he).2 (.inr ⟨htwice, hx.symm⟩)
      exact ⟨e, he, r, hr, hname.imp_right .inl⟩
    · obtain ⟨e, he, r, hr, hn⟩ := mem_helpers_iff.1 hn
      exact ⟨e, he, r, hr, .inr (.inr ⟨n, hn, hx.symm⟩)⟩
  · rintro ⟨e, he, r, hr, hname⟩
    rw [Names, ← or_assoc] at hname
    rcases hname with hname | ⟨n, hn, hx⟩
    · rcases (hown he).1 ⟨r, hr, hname⟩ with hx | ⟨htwice, hx⟩
      · exact .inl ⟨e, he, hx.symm⟩
      · exact .inr (.inl ⟨e, ⟨he, htwice⟩, hx.symm⟩)
    · have hhelper : n ∈ helpers rules := mem_helpers_iff.2 ⟨e, he, r, hr, hn⟩
      by_cases hkey : n ∈ rules.keys
      · obtain ⟨d, hd, rfl⟩ := List.mem_map.1 hkey
        exact .inl ⟨d, hd, (foundName_of_helper hhelper).trans hx.symm⟩
      · exact .inr (.inr ⟨n, ⟨hhelper, decide_eq_true hkey⟩, hx.symm⟩)

theorem mem_blocksInOrder_iff (h : Nameable rules) (hs : StatedRules rules) :
    (∃ b ∈ blocksInOrder breakpoints rules, x ∈ classNames (trim b.selector.toList)) ↔ x ∈ foundNames rules := by
  have hblocks {b : Block} : b ∈ blocksInOrder breakpoints rules ↔
      ∃ e ∈ rules.entries, ∃ r ∈ Rule.merge e.2, ∃ p ∈ blocksOf breakpoints e.1 r, p.2 = b := by
    rw [(perm_blocksInOrder breakpoints rules).mem_iff, List.mem_map, placed]
    simp only [List.mem_flatMap]
    constructor
    · rintro ⟨p, ⟨e, he, r, hr, hp⟩, hb⟩
      exact ⟨e, he, r, hr, p, hp, hb⟩
    · rintro ⟨e, he, r, hr, p, hp, hb⟩
      exact ⟨p, ⟨e, he, r, hr, hp⟩, hb⟩
  have hmerged {e : String × List Rule} (he : e ∈ rules.entries) :
      (∃ r ∈ Rule.merge e.2, ∃ p ∈ blocksOf breakpoints e.1 r, x ∈ classNames (trim p.2.selector.toList)) ↔
        ∃ r ∈ e.2, Names e.1 r.context x := by
    rw [← Rule.exists_merge_iff (P := fun k => Names e.1 k x)]
    refine exists_congr fun r => and_congr_right fun hr => ?_
    obtain ⟨s, hs', hcontext⟩ := Rule.exists_merge_iff.1 ⟨r, hr, rfl⟩
    exact mem_classNames_blocksOf_iff (hcontext ▸ (hs e he).2 s hs') (h e he).1 (h e he).2.1
  rw [mem_foundNames_iff h]
  constructor
  · rintro ⟨b, hb, hx⟩
    obtain ⟨e, he, r, hr, p, hp, rfl⟩ := hblocks.1 hb
    exact ⟨e, he, (hmerged he).1 ⟨r, hr, p, hp, hx⟩⟩
  · rintro ⟨e, he, hname⟩
    obtain ⟨r, hr, p, hp, hx⟩ := (hmerged he).2 hname
    exact ⟨p.2, hblocks.2 ⟨e, he, r, hr, p, hp, rfl⟩, hx⟩

end Names

section Counting

variable {c : Config} {classes : List String} {banner : Bool} {g : Generation}

theorem classNames_leading : ∀ s ∈ leading c, classNames s = [] := by
  have hdots : ∀ s ∈ ":root".toList :: Config.preflightRules.map fun r => r.1.toList, '.' ∉ s := by
    decide +kernel
  exact fun s hs => classNames_of_not_mem (hdots s (leading_subset c hs))

theorem utilityClasses_eq_length (h : c.generate classes banner = .ok g)
    (hbanner : banner = false ∨ c.bannerText = "")
    (hname : ∀ e ∈ g.resolved.entries, ∀ x ∈ e.1.toList, isTokenChar x = true)
    (hq : QuietSheet c g.resolved) (widths : Table String String) :
    (ofText g.css widths).utilityClasses = (foundNames g.resolved).length := by
  have hnewline : isTokenChar '\n' = false := by decide
  have hrow : ∀ e ∈ g.resolved.entries, '\n' ∉ e.1.toList := by
    intro e he hm
    rw [hname e he _ hm] at hnewline
    cases hnewline
  have hnameable : Nameable g.resolved := by
    intro e he
    obtain ⟨_, hresolve, hne⟩ := (Config.mem_resolved h).1 he
    refine ⟨hname e he, fun hempty => hne ?_, hne⟩
    rw [hempty, Resolver.resolve_empty] at hresolve
    exact (Except.ok.inj hresolve).symm
  have hstat : (ofText g.css widths).utilityClasses =
      (classNames (['\n'].intercalate (ruleSelectors (dropComments g.css.toList)))).eraseDups.length := rfl
  rw [hstat, classNames_intercalate, ruleSelectors_generate h hbanner hrow hq]
  refine length_eraseDups (nodup_foundNames hnameable) fun x => ?_
  rw [← mem_blocksInOrder_iff hnameable (statedRules_generate h hrow), List.flatMap_append,
    List.flatMap_eq_nil_iff.2 classNames_leading, List.nil_append, List.flatMap_map, List.mem_flatMap]

/-- Each class counts once, and so does each class of a group or scheme that is not among them; a lone digit that
is written with and without the blank at its end counts twice. -/
theorem utility_classes_counted (h : c.generate classes banner = .ok g)
    (hbanner : banner = false ∨ c.bannerText = "")
    (hname : ∀ e ∈ g.resolved.entries, ∀ x ∈ e.1.toList, isTokenChar x = true)
    (hq : QuietSheet c g.resolved) (widths : Table String String) :
    (ofText g.css widths).utilityClasses = g.resolved.size + g.resolved.entries.countP foundTwice +
      (helpers g.resolved).countP (· ∉ g.resolved.keys) := by
  rw [utilityClasses_eq_length h hbanner hname hq, length_foundNames]

def digitConfig : Config :=
  { Config.standard with presets := .ofList [("1", "dark:p-1")] }

def digitRules : List (String × List Rule) := [
  ("1", [⟨["padding: 0.25rem;"], ⟨none, some "dark", none, none⟩⟩]),
  ("dark:p-2", [⟨["padding: 0.5rem;"], ⟨none, some "dark", none, none⟩⟩]),
  ("group-hover:m-1", [⟨["margin: 0.25rem;"], ⟨none, none, some "group-hover", none⟩⟩])]

theorem resolve_digitRules : ∀ e ∈ digitRules, digitConfig.resolver.resolve [] e.1 = .ok e.2 ∧ e.2 ≠ [] := by
  rw [Config.resolver_eq_listed]
  let r := Resolver.listed digitConfig.mergedTheme digitConfig.presets
  have hplain : ∀ e ∈ digitRules.tail, r.resolve [] e.1 = .ok e.2 ∧ e.2 ≠ [] :=
    r.resolve_entries (by decide +kernel)
  have hdigit : r.Expands [] "1" ["dark:p-1"] := by
    constructor <;> decide +kernel
  have hbare : r.presetClasses? (r.baseOf "dark:p-1") = none := by
    decide +kernel
  rw [digitRules, List.forall_mem_cons]
  refine ⟨⟨?_, List.cons_ne_nil _ _⟩, hplain⟩
  rw [r.resolve_single hdigit hbare]
  decide +kernel

theorem quiet_digitRules : ∀ e ∈ digitRules,
    ('\x7b' ∉ e.1.toList ∧ '\x7d' ∉ e.1.toList) ∧ ∀ r ∈ e.2, ∀ line ∈ r.lines, Quiet line.toList := by
  decide

theorem utility_classes_counted_digit :
    ∃ g, digitConfig.generate ["1", "dark:p-2", "group-hover:m-1"] false = .ok g ∧
      QuietSheet digitConfig g.resolved ∧ g.resolved.size = 3 ∧
      (ofText g.css Vocabulary.breakpoints).utilityClasses = 6 := by
  obtain ⟨g, hg, hentries⟩ := Config.exists_entries_generate (by decide) (by decide) resolve_digitRules false
  have hquiet := quietSheet_standard (c := digitConfig) rfl hentries quiet_digitRules
  refine ⟨g, hg, hquiet, ?_, ?_⟩
  · rw [Table.size, hentries]
    rfl
  · rw [utility_classes_counted hg (.inl rfl) (hentries ▸ by decide) hquiet, Table.size, helpers, Table.keys, hentries]
    decide +kernel

def darkRules : List (String × List Rule) := [
  ("dark:p-1", [⟨["padding: 0.25rem;"], ⟨none, some "dark", none, none⟩⟩])]

theorem toggle_counted :
    ∃ g, Config.standard.generate ["dark:p-1"] false = .ok g ∧ g.resolved.size = 1 ∧
      (ofText g.css Vocabulary.breakpoints).utilityClasses = 2 := by
  have hresolve : ∀ e ∈ darkRules, Config.standard.resolver.resolve [] e.1 = .ok e.2 ∧ e.2 ≠ [] := by
    rw [Config.resolver_eq_listed]
    exact Resolver.resolve_entries _ (by decide +kernel)
  obtain ⟨g, hg, hentries⟩ := Config.exists_entries_generate (by decide) (by decide) hresolve false
  have hquiet := quietSheet_standard (c := .standard) rfl hentries (by decide)
  refine ⟨g, hg, ?_, ?_⟩
  · rw [Table.size, hentries]
    rfl
  · rw [utilityClasses_eq_length hg (.inl rfl) (hentries ▸ by decide) hquiet, length_foundNames, Table.size, helpers,
      Table.keys, hentries]
    decide +kernel

end Counting

end UtilityCss.Stylesheet.Statistics
