import Mathlib.Data.List.Perm.Basic
import UtilityCss.Proofs.Rule.Grouping
import UtilityCss.Proofs.Statistics.Heads

namespace UtilityCss

open Text Stylesheet Stylesheet.Statistics

namespace Selector

theorem quiet_states : ∀ s ∈ states, Quiet (front s.1) ∧ Quiet (back s.1 s.2) ∧ (back s.1 s.2).head? ≠ some '*' := by
  decide +kernel

variable {c : Context} {token : String}

theorem quiet_build (h : Stated c) (hopen : '\x7b' ∉ token.toList) (hclose : '\x7d' ∉ token.toList) :
    Quiet (build Vocabulary.variants token c).toList := by
  obtain ⟨hfront, hback, hhead⟩ := quiet_states _ h
  have hslash := (around_states _ h).plain '/' (by decide)
  have hstar := apart_escape (by decide : '/' ≠ '\\') (by decide : '*' ≠ '\\') (by decide) token.toList
  have hnot {x : Char} (hx : x ∉ token.toList) (he : x ∉ ['\\', '3', ' ']) : x ∉ escape token.toList :=
    fun hm => (mem_of_mem_escape hm).elim hx he
  rw [toList_build h]
  refine ⟨?_, ?_, ?_⟩
  · simp [hfront.unopened, hback.unopened, hnot hopen (by decide)]
  · simp [hfront.unclosed, hback.unclosed, hnot hclose (by decide)]
  · rw [List.append_assoc]
    exact apart_unit hslash.1 hslash.2 hhead hstar

theorem quiet_toggled {s : String} (h : Quiet s.toList) (hs : s.toList.head? = some '.') (m : Scheme) :
    Quiet (toggled m s).toList := by
  have hm : Quiet (toggleFront m) ∧ Quiet (toggleMiddle m) ∧ '/' ∉ toggleFront m ∧ '/' ∉ toggleMiddle m ∧
      (toggleMiddle m).head? ≠ some '*' := by
    cases m <;> decide
  obtain ⟨hfront, hmiddle, hslash, hslash', hstar⟩ := hm
  have hdot : s.toList.head? ≠ some '*' := by
    rw [hs]
    decide
  rw [toList_toggled]
  refine ⟨?_, ?_, apart_toggled hslash hslash' h.uncommented hdot hstar⟩
  · simp [hfront.unopened, hmiddle.unopened, h.unopened]
  · simp [hfront.unclosed, hmiddle.unclosed, h.unclosed]

end Selector

namespace Stylesheet

theorem perm_standing {ps : List Place} (hd : ps.Nodup) {bs : List (Place × Block)} (h : ∀ b ∈ bs, b.1 ∈ ps) :
    (ps.flatMap fun p => standing p bs).Perm (bs.map Prod.snd) := by
  induction bs with
  | nil => simp [standing]
  | cons b bs ih =>
    rw [List.forall_mem_cons] at h
    have hsplit (p : Place) : standing p (b :: bs) = (if p = b.1 then [b.2] else []) ++ standing p bs := by
      by_cases hp : p = b.1
      · simp [standing, hp]
      · simp [standing, hp, Ne.symm hp]
    have hone : (ps.flatMap fun p => if p = b.1 then [b.2] else []) = [b.2] := by
      obtain ⟨before, after, rfl⟩ := List.append_of_mem h.1
      rw [List.nodup_append, List.nodup_cons] at hd
      obtain ⟨_, ⟨hafter, _⟩, hbefore⟩ := hd
      have hnone {qs : List Place} (hq : b.1 ∉ qs) : (qs.flatMap fun p => if p = b.1 then [b.2] else []) = [] :=
        List.flatMap_eq_nil_iff.2 fun p hp => if_neg (ne_of_mem_of_not_mem hp hq)
      rw [List.flatMap_append, List.flatMap_cons, if_pos rfl, hnone hafter,
        hnone fun hm => hbefore _ hm _ (List.mem_cons_self ..) rfl]
      rfl
    simp only [hsplit]
    refine (List.flatMap_append_perm ps _ _).symm.trans ?_
    rw [hone]
    exact (ih h.2).cons b.2

variable (breakpoints : Table String String) (rules : Table String (List Rule))

def blocksInOrder : List Block :=
  (places (ordered breakpoints)).flatMap (blocksAt breakpoints rules)

theorem home_of_mem_blocksOf {token : String} {r : Rule} {b : Place × Block}
    (h : b ∈ blocksOf breakpoints token r) : b.1 ∈ homes breakpoints r.context := by
  rw [blocksOf] at h
  rw [homes_eq, schemeOf_eq]
  split at h
  · rw [List.mem_singleton.1 h]
    exact List.mem_cons_self ..
  · rename_i m hm
    simp only [List.mem_cons, List.not_mem_nil, or_false] at h
    rw [hm]
    rcases h with rfl | rfl <;> simp

theorem perm_blocksInOrder :
    (blocksInOrder breakpoints rules).Perm ((placed breakpoints rules).map Prod.snd) := by
  have hnodup := nodup_places ((ordered_ascending breakpoints).perm.nodup_iff.2 breakpoints.distinct)
  have hplaces : ∀ b ∈ placed breakpoints rules, b.1 ∈ places (ordered breakpoints) := by
    intro b hb
    obtain ⟨e, _, hb⟩ := List.mem_flatMap.1 hb
    obtain ⟨r, _, hb⟩ := List.mem_flatMap.1 hb
    exact homes_subset_places breakpoints _ (home_of_mem_blocksOf breakpoints hb)
  have hperm := perm_standing hnodup hplaces
  rwa [List.flatMap_congr fun p _ => standing_placed breakpoints rules p] at hperm

def attributed : List ((String × Rule) × Place × Block) :=
  rules.entries.flatMap fun e => (Rule.merge e.2).flatMap fun r =>
    (blocksOf breakpoints e.1 r).map fun b => ((e.1, r), b)

theorem map_attributed : (attributed breakpoints rules).map Prod.snd = placed breakpoints rules := by
  rw [attributed, placed, List.map_flatMap]
  apply List.flatMap_congr
  intro e _
  rw [List.map_flatMap]
  apply List.flatMap_congr
  intro r _
  rw [List.map_map]
  exact List.map_id _

theorem mem_attributed {w : (String × Rule) × Place × Block} :
    w ∈ attributed breakpoints rules ↔
      ∃ e ∈ rules.entries, ∃ r ∈ Rule.merge e.2, w.1 = (e.1, r) ∧ w.2 ∈ blocksOf breakpoints e.1 r := by
  obtain ⟨k, b⟩ := w
  simp only [attributed, List.mem_flatMap, List.mem_map, Prod.mk.injEq]
  refine exists_congr fun e => and_congr_right fun _ => exists_congr fun r => and_congr_right fun _ => ?_
  constructor
  · rintro ⟨b, hb, rfl, rfl⟩
    exact ⟨rfl, hb⟩
  · rintro ⟨rfl, hb⟩
    exact ⟨b, hb, rfl, rfl⟩

namespace Statistics

def headsOf : Section → List (List Char)
  | .root _ => [":root".toList]
  | .verbatim text => (heads text.toList).map trim
  | .base blocks => blocks.map fun b => trim b.selector.toList
  | .media query blocks => trim ("@media " ++ query).toList :: blocks.map fun b => trim b.selector.toList

variable {c : Config} {breakpoints : Table String String} {rules : Table String (List Rule)}

structure QuietSheet (c : Config) (rules : Table String (List Rule)) : Prop where
  properties : ∀ d ∈ c.mergedTheme.properties, Quiet d.2.toList
  tokens : ∀ e ∈ rules.entries, '\x7b' ∉ e.1.toList ∧ '\x7d' ∉ e.1.toList
  lines : ∀ e ∈ rules.entries, ∀ r ∈ e.2, ∀ line ∈ r.lines, Quiet line.toList

theorem quietSheet_standard (ht : c.mergedTheme = .standard) {es : List (String × List Rule)}
    (hentries : rules.entries = es)
    (h : ∀ e ∈ es, ('\x7b' ∉ e.1.toList ∧ '\x7d' ∉ e.1.toList) ∧ ∀ r ∈ e.2, ∀ line ∈ r.lines, Quiet line.toList) :
    QuietSheet c rules where
  properties := ht ▸ fun d hd => .of_calm (Config.calm_standard d hd)
  tokens := hentries ▸ fun e he => (h e he).1
  lines := hentries ▸ fun e he => (h e he).2

def StatedRules (rules : Table String (List Rule)) : Prop :=
  ∀ e ∈ rules.entries, '\n' ∉ e.1.toList ∧ ∀ r ∈ e.2, Selector.Stated r.context

def leading (c : Config) : List (List Char) :=
  ":root".toList :: if c.preflight then Config.preflightRules.map fun r => r.1.toList else []

theorem leading_subset (c : Config) :
    leading c ⊆ ":root".toList :: Config.preflightRules.map fun r => r.1.toList := by
  rw [leading]
  split
  · exact List.Subset.refl _
  · exact List.cons_subset_cons _ (List.nil_subset _)

theorem exists_of_mem_blocksAt {p : Place} {b : Block} (hb : b ∈ blocksAt breakpoints rules p) :
    ∃ e ∈ rules.entries, ∃ r ∈ e.2, b.selector = Selector.build Vocabulary.variants e.1 r.context ∨
      ∃ m, b.selector = toggled m (Selector.build Vocabulary.variants e.1 r.context) := by
  obtain ⟨⟨token, d⟩, hk, rfl⟩ := List.mem_map.1 hb
  obtain ⟨rs, hrs, r, hr, rfl⟩ := (mem_keyed rules).1 (List.mem_filter.1 hk).1
  refine ⟨_, (rules.get?_eq_some_iff token rs).1 hrs, r, hr, ?_⟩
  rw [selector_blockAt]
  cases toggleAt p r.context with
  | none => exact .inl rfl
  | some m => exact .inr ⟨m, rfl⟩

theorem telling_blockAt (h : QuietSheet c rules) (hs : StatedRules rules) {p : Place} {b : Block}
    (hb : b ∈ blocksAt breakpoints rules p) : Telling b := by
  have hlines : ∀ line ∈ b.lines, Quiet line.toList := by
    intro line hl
    obtain ⟨e, he, r, hr, hlr⟩ := mem_lines_blocksAt breakpoints hb hl
    exact h.lines e he r hr line hlr
  obtain ⟨e, he, r, hr, hselector⟩ := exists_of_mem_blocksAt hb
  have hstated := (hs e he).2 r hr
  have hquiet := Selector.quiet_build hstated (h.tokens e he).1 (h.tokens e he).2
  have hrow := Selector.newline_not_mem_build hstated (hs e he).1
  rcases hselector with hb | ⟨m, hb⟩
  · exact ⟨hb ▸ hquiet, hb ▸ hrow, hlines⟩
  · exact ⟨hb ▸ Selector.quiet_toggled hquiet (Selector.head?_build e.1 hstated) m,
      hb ▸ newline_not_mem_toggled hrow m, hlines⟩

theorem head?_trim_selector (hs : StatedRules rules) {p : Place} {b : Block}
    (hb : b ∈ blocksAt breakpoints rules p) : (trim b.selector.toList).head? ≠ some '@' := by
  obtain ⟨e, he, r, hr, hb | ⟨m, hb⟩⟩ := exists_of_mem_blocksAt hb
  · rw [hb, head?_trim (Selector.head?_build e.1 ((hs e he).2 r hr)) (by decide)]
    decide
  · have hhead : (toggled m (Selector.build Vocabulary.variants e.1 r.context)).toList.head? = some '[' := by
      rw [toList_toggled]
      cases m <;> rfl
    rw [hb, head?_trim hhead (by decide)]
    decide

theorem opens_sectionAt (h : QuietSheet c rules) (hs : StatedRules rules)
    (hw : ∀ e ∈ breakpoints.entries, Calm e.2.toList) (p : Place) :
    Opens (sectionAt breakpoints rules p).text.toList (headsOf (sectionAt breakpoints rules p)) := by
  rw [sectionAt]
  split
  · exact opens_base fun b hb => telling_blockAt h hs hb
  · exact opens_media (.of_calm (calm_query hw p)) fun b hb => telling_blockAt h hs hb

theorem solid_unlines {rows : List String} (h : ∀ row ∈ rows, row ≠ "" ∧ Solid row.toList) :
    Solid (unlines rows).toList := by
  induction rows with
  | nil => exact ⟨nofun, nofun⟩
  | cons row rows ih =>
    rw [List.forall_mem_cons] at h
    obtain ⟨⟨hne, hrow⟩, hrows⟩ := h
    have hne' : row.toList ≠ [] := fun he => hne (String.toList_inj.1 he)
    cases rows with
    | nil => simpa [unlines] using hrow
    | cons next rows =>
      have hnext : (unlines (next :: rows)).toList ≠ [] := by
        have hnext := (List.forall_mem_cons.1 hrows).1.1
        cases rows <;> simp [unlines, String.intercalate_cons_of_ne_nil, hnext]
      have hlast : ∀ c ∈ ('\n' :: (unlines (next :: rows)).toList).getLast?, isBlank c = false := by
        rw [List.getLast?_cons_of_ne_nil hnext]
        exact (ih hrows).last
      rw [toList_unlines_cons]
      exact solid_append hne' hrow.first (List.cons_ne_nil _ _) hlast

def resetRow (r : String × List (String × String)) : String :=
  r.1 ++ " \x7b " ++ " ".intercalate (Rule.linesOf r.2) ++ " \x7d"

theorem lineRule_eq (r : String × List (String × String)) :
    Config.lineRule r.1 r.2 = resetRow r ++ "\n" := by
  rw [Config.lineRule, resetRow, ← String.toList_inj]
  simp

theorem join_lines {rows : List String} (h : rows ≠ []) :
    String.join (rows.map (· ++ "\n")) = unlines rows ++ "\n" := by
  induction rows with
  | nil => exact absurd rfl h
  | cons row rows ih =>
    cases rows with
    | nil => simp [unlines, String.join]
    | cons next rows =>
      rw [unlines_cons_cons, String.append_assoc, ← ih (List.cons_ne_nil _ _), ← String.toList_inj]
      simp [String.toList_join]

theorem preflight_rows :
    trim Config.preflightText.toList = (unlines (Config.preflightRules.map resetRow)).toList := by
  have hsolid : Solid (unlines (Config.preflightRules.map resetRow)).toList := by
    apply solid_unlines
    rw [List.forall_mem_map]
    intro r hr
    have hhead : ∀ r ∈ Config.preflightRules,
        r.1.toList ≠ [] ∧ ∀ c ∈ r.1.toList.head?, isBlank c = false := by
      decide +kernel
    obtain ⟨hne, hfirst⟩ := hhead r hr
    have htext : (resetRow r).toList = r.1.toList ++
        (" \x7b ".toList ++ (" ".intercalate (Rule.linesOf r.2)).toList ++ [' ', '\x7d']) := by
      simp [resetRow]
    refine ⟨fun he => ?_, ?_⟩
    · rw [he] at htext
      exact hne (List.append_eq_nil_iff.1 htext.symm).1
    · rw [htext]
      refine solid_append hne hfirst (by simp) ?_
      rw [List.getLast?_append_of_ne_nil _ (by simp)]
      decide
  have htext : Config.preflightText = unlines (Config.preflightRules.map resetRow) ++ "\n" := by
    rw [← join_lines (by simp [Config.preflightRules]), Config.preflightText_eq, List.map_map]
    exact congrArg String.join (List.map_congr_left fun r _ => lineRule_eq r)
  rw [htext, String.toList_append, trim_append_blanks _ (by decide), hsolid.trim]

theorem quiet_preflight : ∀ r ∈ Config.preflightRules, Quiet r.1.toList ∧ trim r.1.toList = r.1.toList ∧
    Quiet (' ' :: (" ".intercalate (Rule.linesOf r.2)).toList ++ [' ']) := by
  decide +kernel

theorem opens_preflight :
    Opens (trim Config.preflightText.toList) (Config.preflightRules.map fun r => r.1.toList) := by
  have hheads : (Config.preflightRules.map fun r => r.1.toList) = Config.preflightRules.flatMap fun r => [r.1.toList] :=
    List.map_eq_flatMap
  rw [preflight_rows, hheads]
  refine Opens.joined (by decide) (by decide) fun r hr => ?_
  obtain ⟨hhead, htrim, hbody⟩ := quiet_preflight r hr
  have hopens := Opens.braces_of_quiet hhead hbody
  rw [htrim] at hopens
  simpa [resetRow] using hopens

theorem sections_opening (c : Config) : c.opening.sections =
    .root c.mergedTheme.properties :: if c.preflight then [.verbatim (trimmed Config.preflightText)] else [] := by
  have hne : c.opening.preamble.filter (!·.isEmpty) = if c.preflight then some Config.preflightText else none := by
    rw [Config.opening]
    split <;> simp [Config.preflightText_ne]
  rw [Opening.sections, hne, Config.opening]
  split <;> rfl

theorem headsOf_preflight : headsOf (.verbatim (trimmed Config.preflightText)) =
    Config.preflightRules.map fun r => r.1.toList := by
  have hheads := opens_preflight.heads_eq
  rw [dropComments_eq opens_preflight.uncommented] at hheads
  rw [headsOf, trimmed, String.toList_ofList, hheads]

theorem QuietSheet.quiet_property (h : QuietSheet c rules) :
    ∀ line ∈ Rule.linesOf c.mergedTheme.properties, Quiet line.toList := by
  rw [Rule.linesOf, List.forall_mem_map]
  intro d hd
  have hname : Quiet d.1.toList := .of_calm (calm_property _ d hd)
  have hbehind : Quiet (d.2.toList ++ [';']) := (h.properties d hd).append (by decide) (.inl (by decide))
  have hvalue : Quiet (": ".toList ++ (d.2.toList ++ [';'])) :=
    (by decide : Quiet ": ".toList).append hbehind (.inr (by decide))
  have htext : (d.1 ++ ": " ++ d.2 ++ ";").toList = d.1.toList ++ (": ".toList ++ (d.2.toList ++ [';'])) := by simp
  rw [htext]
  exact hname.append hvalue (.inl (by simp))

theorem opens_opening (h : QuietSheet c rules) :
    ∀ s ∈ c.opening.sections, Opens s.text.toList (headsOf s) := by
  rw [sections_opening, List.forall_mem_cons]
  refine ⟨opens_root h.quiet_property, ?_⟩
  split
  · rw [List.forall_mem_singleton, headsOf_preflight, Section.text, trimmed, String.toList_ofList]
    exact opens_preflight
  · exact List.forall_mem_nil _

theorem opens_emit (h : QuietSheet c rules) (hs : StatedRules rules)
    (hw : ∀ e ∈ breakpoints.entries, Calm e.2.toList) :
    Opens (emit c.opening breakpoints rules).toList ((sections c.opening breakpoints rules).flatMap headsOf) := by
  have hsections : ∀ s ∈ sections c.opening breakpoints rules, Opens s.text.toList (headsOf s) := by
    rw [sections, ruleSections_eq, List.forall_mem_append, List.forall_mem_map]
    exact ⟨opens_opening h, fun p _ => opens_sectionAt h hs hw p⟩
  have hjoined : Opens ("\n\n".intercalate ((sections c.opening breakpoints rules).map Section.text)).toList _ :=
    Opens.joined (by decide) (by decide) hsections
  have hnewline : Opens "\n".toList [] := Opens.blanks (by decide)
  have hall := hjoined.append hnewline (.inl (by decide))
  rw [List.append_nil] at hall
  rwa [emit, render, String.toList_append]

theorem headsOf_opening (c : Config) :
    (c.opening.sections.flatMap headsOf).filter (fun s => s.head? ≠ some '@') = leading c := by
  have hroot : headsOf (.root c.mergedTheme.properties) = [":root".toList] := rfl
  have hbare : ∀ s ∈ ":root".toList :: Config.preflightRules.map fun r => r.1.toList, s.head? ≠ some '@' := by
    decide +kernel
  rw [leading, sections_opening, List.flatMap_cons, hroot, List.singleton_append]
  split
  · rw [List.flatMap_singleton, headsOf_preflight, List.filter_eq_self]
    exact fun s hs => decide_eq_true (hbare s hs)
  · rfl

theorem flatMap_filter_of_empty {α β γ : Type} (f : α → List β) (g : β → γ) (xs : List α) :
    ((xs.filter fun x => !(f x).isEmpty).flatMap fun x => (f x).map g) = xs.flatMap fun x => (f x).map g := by
  induction xs with
  | nil => rfl
  | cons x xs ih =>
    rw [List.flatMap_cons, ← ih, List.filter_cons]
    cases hx : f x with
    | nil => simp
    | cons b bs => simp [hx]

theorem ruleSelectors_emit (h : QuietSheet c rules) (hs : StatedRules rules)
    (hw : ∀ e ∈ breakpoints.entries, Calm e.2.toList) :
    ruleSelectors (dropComments (emit c.opening breakpoints rules).toList) =
      leading c ++ (blocksInOrder breakpoints rules).map fun b => trim b.selector.toList := by
  let bare (s : List Char) : Bool := s.head? ≠ some '@'
  have hblocks (p : Place) : ((blocksAt breakpoints rules p).map fun b => trim b.selector.toList).filter bare =
      (blocksAt breakpoints rules p).map fun b => trim b.selector.toList := by
    rw [List.filter_eq_self, List.forall_mem_map]
    exact fun b hb => decide_eq_true (head?_trim_selector hs hb)
  have hsection (p : Place) : (headsOf (sectionAt breakpoints rules p)).filter bare =
      (blocksAt breakpoints rules p).map fun b => trim b.selector.toList := by
    rw [sectionAt]
    split
    · exact hblocks p
    · have hmedia : ("@media " ++ query breakpoints p).toList.head? = some '@' := by
        rw [String.toList_append]
        rfl
      have hnot : ¬ bare (trim ("@media " ++ query breakpoints p).toList) = true :=
        fun hb => of_decide_eq_true hb (head?_trim hmedia (by decide))
      rw [headsOf, List.filter_cons_of_neg hnot, hblocks]
  have hrules : ((ruleSections breakpoints (placed breakpoints rules)).flatMap headsOf).filter bare =
      (blocksInOrder breakpoints rules).map fun b => trim b.selector.toList := by
    rw [ruleSections_eq, List.flatMap_map, List.filter_flatMap, blocksInOrder, List.map_flatMap]
    simp only [hsection]
    exact flatMap_filter_of_empty (fun p => blocksAt breakpoints rules p) _ _
  rw [ruleSelectors, (opens_emit h hs hw).heads_eq, sections, List.flatMap_append, List.filter_append,
    ← headsOf_opening c, ← hrules]

theorem statedRules_generate {classes : List String} {banner : Bool} {g : Generation}
    (h : c.generate classes banner = .ok g) (hrow : ∀ e ∈ g.resolved.entries, '\n' ∉ e.1.toList) :
    StatedRules g.resolved :=
  fun e he => ⟨hrow e he, fun r hr => (Config.known_generate h e he r hr).stated⟩

theorem ruleSelectors_generate {classes : List String} {banner : Bool} {g : Generation}
    (h : c.generate classes banner = .ok g) (hbanner : banner = false ∨ c.bannerText = "")
    (hrow : ∀ e ∈ g.resolved.entries, '\n' ∉ e.1.toList) (hq : QuietSheet c g.resolved) :
    ruleSelectors (dropComments g.css.toList) =
      leading c ++ (blocksInOrder Vocabulary.breakpoints g.resolved).map fun b => trim b.selector.toList := by
  have hcss : g.css = emit c.opening Vocabulary.breakpoints g.resolved := by
    rw [(Config.generate_eq_ok h).2, Config.bannered, if_neg, emit]
    rintro ⟨rfl, hne⟩
    exact hbanner.elim Bool.noConfusion hne
  rw [hcss]
  exact ruleSelectors_emit hq (statedRules_generate h hrow) (by decide)

end Statistics

end Stylesheet

end UtilityCss
