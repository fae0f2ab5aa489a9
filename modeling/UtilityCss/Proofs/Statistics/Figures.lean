import UtilityCss.Proofs.Distinct
import UtilityCss.Proofs.Statistics.Classes
import UtilityCss.Proofs.Statistics.Declared
import UtilityCss.Proofs.Statistics.Queries
import UtilityCss.Proofs.Statistics.Squeezed
import UtilityCss.Proofs.Stylesheet.Comments

/-!
The figures of minified sheets. Selectors, classes and states stay what they were. The others stay so unless a
blank value is lost, two spellings of a colour become one, or a query for a width loses the blanks that hid it.
-/

namespace UtilityCss.Stylesheet.Statistics

open Text

inductive Commentary : List Char → Prop
  | nil : Commentary []
  | blank {c : Char} {text : List Char} (hc : isBlank c = true) (h : Commentary text) : Commentary (c :: text)
  | comment {body text : List Char} (hb : Apart '*' '/' body) (h : Commentary text) :
      Commentary ('/' :: '*' :: (body ++ '*' :: '/' :: text))

theorem Commentary.exists_gap {text : List Char} (h : Commentary text) :
    ∃ gap, Blanks gap ∧ ∀ rest, dropComments (text ++ rest) = gap ++ dropComments rest := by
  induction h with
  | nil => exact ⟨[], nofun, fun _ => rfl⟩
  | @blank c text hc _ ih =>
    obtain ⟨gap, hgap, ih⟩ := ih
    refine ⟨c :: gap, List.forall_mem_cons.2 ⟨hc, hgap⟩, fun rest => ?_⟩
    have hslash : c ≠ '/' := by
      rintro rfl
      revert hc
      decide
    rw [List.cons_append, dropComments_cons fun he => absurd he hslash, ih, List.cons_append]
  | @comment body text hb _ ih =>
    obtain ⟨gap, hgap, ih⟩ := ih
    refine ⟨gap, hgap, fun rest => ?_⟩
    have htext : '/' :: '*' :: (body ++ '*' :: '/' :: text) ++ rest =
        '/' :: '*' :: (body ++ '*' :: '/' :: (text ++ rest)) := by simp
    rw [htext, dropComments_comment hb, ih]

structure Preserved (s : List Char) : Prop where
  nonempty : s ≠ []
  names : classNames (squeezed s) = classNames s
  state : showsState (squeezed s) = showsState s

section Sheets

variable {c : Config} {classes : List String} {banner : Bool} {g : Generation}

theorem dropComments_generate (h : c.generate classes banner = .ok g)
    (hbanner : banner = false ∨ Commentary c.bannerText.toList) :
    ∃ gap, Blanks gap ∧ dropComments g.css.toList =
      gap ++ dropComments (emit c.opening Vocabulary.breakpoints g.resolved).toList := by
  have hcss : g.css = c.bannered banner (emit c.opening Vocabulary.breakpoints g.resolved) :=
    (Config.generate_eq_ok h).2
  rw [hcss, Config.bannered]
  split
  · rename_i hb
    have hcommentary : Commentary c.bannerText.toList := hbanner.resolve_left (by simp [hb.1])
    obtain ⟨gap, hgap, hdrop⟩ := hcommentary.exists_gap
    have hrows : Commentary "\n\n".toList := .blank (by decide) (.blank (by decide) .nil)
    obtain ⟨gap', hgap', hdrop'⟩ := hrows.exists_gap
    refine ⟨gap ++ gap', hgap.append hgap', ?_⟩
    rw [String.toList_append, String.toList_append, List.append_assoc, hdrop, hdrop', List.append_assoc]
  · exact ⟨[], List.forall_mem_nil _, rfl⟩

theorem opens_generate (h : c.generate classes banner = .ok g)
    (hbanner : banner = false ∨ Commentary c.bannerText.toList)
    (hrow : ∀ e ∈ g.resolved.entries, '\n' ∉ e.1.toList) (hq : QuietSheet c g.resolved) :
    Apart '/' '*' (dropComments g.css.toList) ∧ ruleSelectors (dropComments g.css.toList) =
      leading c ++ (blocksInOrder Vocabulary.breakpoints g.resolved).map fun b => trim b.selector.toList := by
  have hs := statedRules_generate h hrow
  have hcalm : ∀ e ∈ Vocabulary.breakpoints.entries, Calm e.2.toList := by decide
  have hemit := opens_emit hq hs hcalm
  have hselectors := ruleSelectors_emit hq hs hcalm
  obtain ⟨gap, hgap, hbody⟩ := dropComments_generate h hbanner
  have hdrop := dropComments_eq hemit.uncommented
  rw [hdrop] at hbody hselectors
  have hopens := (Opens.blanks hgap).append hemit (.inr (hgap.getLast?_ne (by decide)))
  have hheads := hopens.heads_eq
  have hheads' := hemit.heads_eq
  rw [dropComments_eq hopens.uncommented, List.nil_append] at hheads
  rw [hdrop] at hheads'
  rw [hbody, ← hselectors, ruleSelectors, hheads, ruleSelectors, hheads']
  exact ⟨hopens.uncommented, rfl⟩

theorem preserved_leading : ∀ s ∈ leading c, Preserved s := by
  have hall : ∀ s ∈ ":root".toList :: Config.preflightRules.map fun r => r.1.toList,
      s ≠ [] ∧ '.' ∉ s ∧ '.' ∉ squeezed s ∧ showsState (squeezed s) = showsState s := by
    decide +kernel
  intro s hs
  obtain ⟨hne, hdot, hdot', hstate⟩ := hall s (leading_subset c hs)
  exact ⟨hne, by rw [classNames_of_not_mem hdot, classNames_of_not_mem hdot'], hstate⟩

theorem preserved_build {token : String} {k : Context} (h : Selector.Stated k) (ht : Unspaced token) :
    Preserved (trim (Selector.build Vocabulary.variants token k).toList) where
  nonempty hnil := by
    have hhead := head?_trim (Selector.head?_build token h) (by decide)
    rw [hnil] at hhead
    cases hhead
  names := by rw [squeezed_trim, classNames_squeezed_build h ht]
  state := by rw [squeezed_trim, showsState_trim, squeezed, showsState_squeezed_build h ht]

theorem preserved_toggled {token : String} {k : Context} (h : Selector.Stated k) (ht : Unspaced token) (m : Scheme) :
    Preserved (trim (toggled m (Selector.build Vocabulary.variants token k)).toList) where
  nonempty hnil := by
    have hfront : (toggled m (Selector.build Vocabulary.variants token k)).toList.head? = some '[' := by
      rw [toList_toggled]
      cases m <;> rfl
    have hhead := head?_trim hfront (by decide)
    rw [hnil] at hhead
    cases hhead
  names := by rw [squeezed_trim, classNames_squeezed_toggled h ht]
  state := by rw [squeezed_trim, showsState_trim, showsState_squeezed_toggled h ht]

theorem preserved_generate (h : c.generate classes banner = .ok g)
    (hbanner : banner = false ∨ Commentary c.bannerText.toList)
    (hblank : ∀ token ∈ classes, ∀ x ∈ token.toList, isBlank x = false)
    (hlone : ∀ e ∈ g.resolved.entries, isLoneDigit e.1.toList = false) (hq : QuietSheet c g.resolved) :
    Apart '/' '*' (dropComments g.css.toList) ∧ ∀ s ∈ ruleSelectors (dropComments g.css.toList), Preserved s := by
  have hsolid : ∀ e ∈ g.resolved.entries, ∀ x ∈ e.1.toList, isBlank x = false := fun e he =>
    hblank e.1 ((Config.mem_resolved h).1 he).1
  have hrow : ∀ e ∈ g.resolved.entries, '\n' ∉ e.1.toList := by
    intro e he hm
    have hnewline := hsolid e he '\n' hm
    revert hnewline
    decide
  have hunspaced : ∀ e ∈ g.resolved.entries, Unspaced e.1 := by
    intro e he
    obtain ⟨_, hresolve, hne⟩ := (Config.mem_resolved h).1 he
    refine ⟨fun hempty => hne ?_, hsolid e he, hlone e he⟩
    rw [hempty, Resolver.resolve_empty] at hresolve
    exact (Except.ok.inj hresolve).symm
  obtain ⟨hapart, hselectors⟩ := opens_generate h hbanner hrow hq
  refine ⟨hapart, ?_⟩
  rw [hselectors, List.forall_mem_append, List.forall_mem_map]
  refine ⟨preserved_leading, fun b hb => ?_⟩
  obtain ⟨p, _, hb⟩ := List.mem_flatMap.1 hb
  obtain ⟨e, he, r, hr, hb | ⟨m, hb⟩⟩ := exists_of_mem_blocksAt hb
  · exact hb ▸ preserved_build ((statedRules_generate h hrow e he).2 r hr) (hunspaced e he)
  · exact hb ▸ preserved_toggled ((statedRules_generate h hrow e he).2 r hr) (hunspaced e he) m

end Sheets

section Figures

variable {css : String} {text : List Char} {widths : Table String String}

/-- Text that keeps its figures: no value is blank, different colours stay different, and no query for a width
has blanks in front of its colon. -/
structure Steady (text : List Char) (widths : Table String String) : Prop where
  valued : ∀ d ∈ declared text, d.2.all isBlank = false
  colors : ∀ a ∈ colors text, ∀ b ∈ colors text, tidied true true a = tidied true true b → a = b
  queries : ∀ e ∈ widths.entries, ∀ t, t <:+ text →
    (widthQuery? e.2.toList t).isSome = true → (widthMedia? e.2.toList t).isSome = true

instance (text : List Char) (widths : Table String String) : Decidable (Steady text widths) :=
  decidable_of_iff
    ((∀ d ∈ declared text, d.2.all isBlank = false) ∧
      (∀ a ∈ Statistics.colors text, ∀ b ∈ Statistics.colors text, tidied true true a = tidied true true b → a = b) ∧
      ∀ e ∈ widths.entries, ∀ t ∈ text.tails,
        (widthQuery? e.2.toList t).isSome = true → (widthMedia? e.2.toList t).isSome = true)
    ⟨fun h => ⟨h.1, h.2.1, fun e he t ht => h.2.2 e he t ((List.mem_tails t text).2 ht)⟩,
      fun h => ⟨h.valued, h.colors, fun e he t ht => h.queries e he t ((List.mem_tails t text).1 ht)⟩⟩

example : Steady "a \x7b color: rgb(0, 0, 0); --x: rgb(0, 0, 1); \x7d".toList Vocabulary.breakpoints := by
  decide +kernel

example : ¬ Steady "a \x7b color: rgb(0, 0, 0); --x: rgb(0,0,0); \x7d".toList Vocabulary.breakpoints := by
  decide +kernel

theorem dropComments_minify (h : Apart '/' '*' (dropComments css.toList)) :
    dropComments (minify css).toList = tidied true true (dropComments css.toList) := by
  have hapart := apart_tidied (by decide : isPlain '/' = true) (by decide : isPlain '*' = true) h true true
  rw [minify, String.toList_ofList, minifyChars_eq_tidied, dropComments_eq hapart]

theorem ruleSelectors_of_preserved (h : ∀ s ∈ ruleSelectors text, Preserved s) :
    ruleSelectors (tidied true true text) = (ruleSelectors text).map squeezed := by
  have hall : (ruleSelectors text).filter (· ≠ []) = ruleSelectors text :=
    List.filter_eq_self.2 fun s hs => decide_eq_true (h s hs).nonempty
  rw [ruleSelectors_tidied, hall]

theorem classNames_of_preserved (h : ∀ s ∈ ruleSelectors text, Preserved s) :
    classNames (['\n'].intercalate (ruleSelectors (tidied true true text))) =
      classNames (['\n'].intercalate (ruleSelectors text)) := by
  rw [classNames_intercalate, classNames_intercalate, ruleSelectors_of_preserved h, List.flatMap_map]
  exact List.flatMap_congr fun s hs => (h s hs).names

theorem countP_showsState_of_preserved (h : ∀ s ∈ ruleSelectors text, Preserved s) :
    (ruleSelectors (tidied true true text)).countP showsState = (ruleSelectors text).countP showsState := by
  rw [ruleSelectors_of_preserved h, List.countP_map]
  exact List.countP_congr fun s hs => by rw [Function.comp_apply, (h s hs).state]

theorem properties_tidied (text : List Char) : properties (tidied true true text) =
    ((declared text).filter fun d => !d.2.all isBlank).map Prod.fst := by
  rw [properties_eq, declared_tidied, List.map_filterMap, ← List.filterMap_eq_filter, List.map_filterMap]
  apply List.filterMap_congr
  intro d _
  cases hd : d.2.all isBlank <;> simp [tidiedDeclaration?, hd, Option.guard]

theorem length_properties_tidied_iff (text : List Char) :
    (properties (tidied true true text)).length = (properties text).length ↔
      ∀ d ∈ declared text, d.2.all isBlank = false := by
  rw [properties_tidied, properties_eq, List.length_map, List.length_map, List.length_filter_eq_length_iff]
  simp only [Bool.not_eq_true']

theorem figures_eq_iff (hapart : Apart '/' '*' (dropComments css.toList))
    (h : ∀ s ∈ ruleSelectors (dropComments css.toList), Preserved s) (hw : ∀ e ∈ widths.entries, IsWidth e.2.toList) :
    { ofText (minify css) widths with sizeBytes := (ofText css widths).sizeBytes } = ofText css widths ↔
      Steady (dropComments css.toList) widths := by
  have hselectors : (ruleSelectors (tidied true true (dropComments css.toList))).length =
      (ruleSelectors (dropComments css.toList)).length := by
    rw [ruleSelectors_of_preserved h, List.length_map]
  have hschemes : collect (fun _ => schemeMedia?) none (tidied true true (dropComments css.toList)) =
      collect (fun _ => schemeMedia?) none (dropComments css.toList) := countSchemes_tidied true _
  have hwidths : (widths.entries.map fun e => (e.1, countWidth e.2 (tidied true true (dropComments css.toList)))) =
      (widths.entries.map fun e => (e.1, countWidth e.2 (dropComments css.toList))) ↔
        ∀ e ∈ widths.entries, ∀ t, t <:+ dropComments css.toList →
          (widthQuery? e.2.toList t).isSome = true → (widthMedia? e.2.toList t).isSome = true := by
    rw [List.map_inj_left]
    refine forall₂_congr fun e he => ?_
    rw [Prod.mk.injEq, ← countWidth_tidied_eq_iff (hw e he) true]
    exact and_iff_right rfl
  simp only [ofText, dropComments_minify hapart, Statistics.mk.injEq, hselectors, classNames_of_preserved h,
    countP_showsState_of_preserved h, hschemes, hwidths, length_properties_tidied_iff, colors_tidied,
    length_eraseDups_map_iff, true_and, and_true]
  constructor
  · rintro ⟨hvalued, _, hcolors, hqueries⟩
    exact ⟨hvalued, hcolors, hqueries⟩
  · intro hsteady
    refine ⟨hsteady.valued, ?_, hsteady.colors, hsteady.queries⟩
    have hall : ∀ d ∈ declared (dropComments css.toList), (!d.2.all isBlank) = true := fun d hd => by
      rw [hsteady.valued d hd, Bool.not_false]
    rw [properties_tidied, List.filter_eq_self.2 hall, properties_eq]

end Figures

variable {c : Config} {classes : List String} {banner : Bool} {g : Generation}

/-- Minified or not, a sheet has the same figures but for its size if, and only if, it is steady. -/
theorem minified_figures_agree_iff (h : c.generate classes banner = .ok g)
    (hbanner : banner = false ∨ Commentary c.bannerText.toList)
    (hblank : ∀ token ∈ classes, ∀ x ∈ token.toList, isBlank x = false)
    (hlone : ∀ e ∈ g.resolved.entries, isLoneDigit e.1.toList = false)
    (hq : QuietSheet c g.resolved) {widths : Table String String} (hw : ∀ e ∈ widths.entries, IsWidth e.2.toList) :
    { ofText (minify g.css) widths with sizeBytes := (ofText g.css widths).sizeBytes } = ofText g.css widths ↔
      Steady (dropComments g.css.toList) widths := by
  obtain ⟨hapart, hpreserved⟩ := preserved_generate h hbanner hblank hlone hq
  exact figures_eq_iff hapart hpreserved hw

def glowRules : List (String × List Rule) := [
  ("bg-[rgba(0,212,255,0.25)]", [⟨["background-color: rgba(0,212,255,0.25);"], ⟨none, none, none, none⟩⟩]),
  ("glow-blue", [⟨["box-shadow: 0 0 30px rgba(0, 212, 255, 0.25);"], ⟨none, none, none, none⟩⟩])]

def glowBlocks : List Block := [
  ⟨".bg-\\[rgba\\(0\\,212\\,255\\,0\\.25\\)\\]", ["background-color: rgba(0,212,255,0.25);"]⟩,
  ⟨".glow-blue", ["box-shadow: 0 0 30px rgba(0, 212, 255, 0.25);"]⟩]

def glowColors : List (List Char) :=
  ["rgba(0,212,255,0.25)".toList, "rgba(0, 212, 255, 0.25)".toList]

theorem commentary_standard : Commentary Config.standard.bannerText.toList :=
  @Commentary.comment "! QuantumCSS - utility-first CSS generated just in time ".toList [] (by decide) .nil

theorem quiet_glowRules : ∀ e ∈ glowRules,
    ('\x7b' ∉ e.1.toList ∧ '\x7d' ∉ e.1.toList) ∧ ∀ r ∈ e.2, ∀ line ∈ r.lines, Quiet line.toList := by
  decide

theorem exists_glow : ∃ g, Config.standard.generate ["bg-[rgba(0,212,255,0.25)]", "glow-blue"] true = .ok g ∧
    g.resolved.entries = glowRules := by
  have hresolve : ∀ e ∈ glowRules, Config.standard.resolver.resolve [] e.1 = .ok e.2 ∧ e.2 ≠ [] := by
    rw [Config.resolver_eq_listed]
    exact Resolver.resolve_entries _ (by decide +kernel)
  exact Config.exists_entries_generate (by decide) (by decide) hresolve true

theorem glowColors_subset (a : List Char) :
    glowColors ⊆ colors (a ++ (['\n'].intercalate (glowBlocks.map Block.chars) ++ ['\n'])) := by
  let text := ['\n'].intercalate (glowBlocks.map Block.chars) ++ ['\n']
  have hall : ∀ t ∈ text :: (cut? ')' text).toList.map Prod.snd, ∀ x ∈ glowColors, x ∈ colors t := by
    decide +kernel
  have hdot : text = '.' :: text.tail := by decide +kernel
  obtain ⟨t, ht, hcases⟩ := colors_behind a text.tail
  rw [← hdot] at ht hcases
  refine List.Subset.trans (hall t ?_) ht.subset
  rcases hcases with rfl | ⟨args, hcut⟩
  · exact List.mem_cons_self ..
  · rw [hcut]
    exact List.mem_cons_of_mem _ (List.mem_singleton.2 rfl)

theorem quietSheet_glow (h : g.resolved.entries = glowRules) : QuietSheet .standard g.resolved :=
  quietSheet_standard (c := .standard) rfl h quiet_glowRules

theorem glowColors_generate
    (h : Config.standard.generate ["bg-[rgba(0,212,255,0.25)]", "glow-blue"] true = .ok g)
    (hentries : g.resolved.entries = glowRules) : glowColors ⊆ colors (dropComments g.css.toList) := by
  have hplaced : placed Vocabulary.breakpoints g.resolved = glowBlocks.map (⟨none, none⟩, ·) := by
    rw [placed, hentries]
    decide +kernel
  have hrow : ∀ e ∈ g.resolved.entries, '\n' ∉ e.1.toList := hentries ▸ by decide
  have hcalm : ∀ e ∈ Vocabulary.breakpoints.entries, Calm e.2.toList := by decide
  have hemit := opens_emit (quietSheet_glow hentries) (statedRules_generate h hrow) hcalm
  obtain ⟨gap, _, hbody⟩ := dropComments_generate h (.inr commentary_standard)
  obtain ⟨front, hfront⟩ := suffix_emit_of_base _ _ hplaced (by decide) Config.standard.opening
  rw [hbody, dropComments_eq hemit.uncommented, ← hfront, ← List.append_assoc]
  exact glowColors_subset _

theorem not_injective_glow {text : List Char} (h : glowColors ⊆ Statistics.colors text) :
    ¬ ∀ a ∈ Statistics.colors text, ∀ b ∈ Statistics.colors text, tidied true true a = tidied true true b → a = b := by
  intro hinj
  have hsame : tidied true true "rgba(0,212,255,0.25)".toList = tidied true true "rgba(0, 212, 255, 0.25)".toList := by
    decide +kernel
  have heq := hinj _ (h (by decide)) _ (h (by decide)) hsame
  revert heq
  decide

theorem minified_figures_differ_glow :
    ∃ g, Config.standard.generate ["bg-[rgba(0,212,255,0.25)]", "glow-blue"] true = .ok g ∧
      QuietSheet .standard g.resolved ∧
      { ofText (minify g.css) Vocabulary.breakpoints with
        sizeBytes := (ofText g.css Vocabulary.breakpoints).sizeBytes } ≠ ofText g.css Vocabulary.breakpoints := by
  obtain ⟨g, hg, hentries⟩ := exists_glow
  have hquiet := quietSheet_glow hentries
  refine ⟨g, hg, hquiet, fun heq => not_injective_glow (glowColors_generate hg hentries) ?_⟩
  have hsteady := (minified_figures_agree_iff hg (.inr commentary_standard) (by decide) (hentries ▸ by decide) hquiet
    (by decide)).1 heq
  exact hsteady.colors

theorem respelled_color_counted_once :
    ∃ g, Config.standard.generate ["bg-[rgba(0,212,255,0.25)]", "glow-blue"] true = .ok g ∧
      (ofText (minify g.css) Vocabulary.breakpoints).uniqueColors ≠
        (ofText g.css Vocabulary.breakpoints).uniqueColors := by
  obtain ⟨g, hg, hentries⟩ := exists_glow
  obtain ⟨hapart, _⟩ := preserved_generate hg (.inr commentary_standard) (by decide) (hentries ▸ by decide)
    (quietSheet_glow hentries)
  refine ⟨g, hg, fun heq => not_injective_glow (glowColors_generate hg hentries) ?_⟩
  rw [← length_eraseDups_map_iff, ← colors_tidied true, ← dropComments_minify hapart]
  exact heq

end UtilityCss.Stylesheet.Statistics
