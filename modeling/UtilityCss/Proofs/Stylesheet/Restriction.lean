import UtilityCss.Proofs.Expansion.Collection
import UtilityCss.Proofs.Stylesheet.Sheet

/-!
The sheet of some of the classes. A sheet is its opening and the blocks of the classes, place by place; what
a class puts there does not depend on the classes around it, so that fewer classes have the same sheet
without the blocks of the others.
-/

namespace UtilityCss

open Outcome

namespace Stylesheet

variable (breakpoints : Table String String) (rules : Table String (List Rule))

def sourced (p : Place) : List (String × Block) :=
  rules.entries.flatMap fun e =>
    (standing p ((Rule.merge e.2).flatMap (blocksOf breakpoints e.1))).map (e.1, ·)

def sheetOf (o : Opening) (held : Place → List (String × Block)) : List Section :=
  o.sections ++ ((places (ordered breakpoints)).filter fun p => !(held p).isEmpty).map fun p =>
    let blocks := (held p).map Prod.snd
    if p = ⟨none, none⟩ then .base blocks else .media (query breakpoints p) blocks

theorem sourced_blocks (p : Place) :
    (sourced breakpoints rules p).map Prod.snd = blocksAt breakpoints rules p := by
  rw [← standing_placed, placed, standing_flatMap, sourced, List.map_flatMap]
  apply List.flatMap_congr
  intro e _
  rw [List.map_map]
  exact List.map_id _

theorem sections_eq_sheetOf (o : Opening) :
    sections o breakpoints rules = sheetOf breakpoints o (sourced breakpoints rules) := by
  have hempty (p : Place) : (sourced breakpoints rules p).isEmpty = (blocksAt breakpoints rules p).isEmpty := by
    simp [← sourced_blocks]
  simp only [sections, sheetOf, ruleSections_eq, hempty, sourced_blocks]
  rfl

theorem render_sheetOf (o : Opening) (held : Place → List (String × Block)) :
    render (sheetOf breakpoints o held) =
      sheet (laidOut breakpoints o (ordered breakpoints) fun p => (held p).map Prod.snd) := by
  have hempty (p : Place) : (held p).isEmpty = ((held p).map Prod.snd).isEmpty := List.isEmpty_map.symm
  simp only [sheetOf, hempty]
  exact render_held breakpoints o fun p => (held p).map Prod.snd

theorem filter_flatMap_fst {α β : Type} (q : String → Bool) (f : String × α → List β) (es : List (String × α)) :
    (es.flatMap fun e => (f e).map (e.1, ·)).filter (fun b => q b.1) =
      (es.filter fun e => q e.1).flatMap fun e => (f e).map (e.1, ·) := by
  induction es with
  | nil => rfl
  | cons e es ih =>
    rw [List.flatMap_cons, List.filter_append, ih, List.filter_map]
    by_cases hq : q e.1 = true <;> simp [hq, Function.comp_def]

theorem filter_sourced {rules rules' : Table String (List Rule)} (q q' : String → Bool)
    (h : (rules.entries.filter fun e => q e.1) = rules'.entries.filter fun e => q' e.1) (p : Place) :
    (sourced breakpoints rules p).filter (fun b => q b.1) =
      (sourced breakpoints rules' p).filter fun b => q' b.1 := by
  rw [sourced, sourced, filter_flatMap_fst, filter_flatMap_fst, h]

end Stylesheet

open Stylesheet

namespace Config

variable {c : Config} {classes classes' : List String} {banner : Bool} {g g' : Generation}

theorem generates_of_subset (hs : classes ⊆ classes') (h : c.generate classes' banner = .ok g') :
    ∃ g, c.generate classes banner = .ok g := by
  rw [← not_fails_iff, fails_generate_iff]
  rintro ⟨token, ht, hr⟩
  have hfails : Fails (c.generate classes' banner) := (fails_generate_iff c classes' banner).2 ⟨token, hs ht, hr⟩
  rw [h] at hfails
  exact not_fails_ok _ hfails

theorem entries_of_subset (hs : classes ⊆ classes') (h : c.generate classes banner = .ok g)
    (h' : c.generate classes' banner = .ok g') :
    g.resolved.entries = g'.resolved.entries.filter fun e => e.1 ∈ classes := by
  have hsorted := Resolver.sorted_eq_self (Resolver.nodup_sorted classes) (Resolver.pairwise_sorted classes)
  have hsorted' := Resolver.sorted_eq_self (Resolver.nodup_sorted classes') (Resolver.pairwise_sorted classes')
  rw [c.resolver.entries_resolveAll (generate_eq_ok h).1, c.resolver.entries_resolveAll (generate_eq_ok h').1,
    hsorted, hsorted', Resolver.sorted_filter_of_subset hs, Resolver.entriesOf, Resolver.entriesOf,
    List.filter_map, List.filter_comm]
  rfl

theorem unresolved_of_subset (hs : classes ⊆ classes') (h : c.generate classes banner = .ok g)
    (h' : c.generate classes' banner = .ok g') :
    g.unresolved = g'.unresolved.filter fun x => x ∈ classes := by
  rw [Generation.unresolved, Generation.unresolved, tokens_generate h, tokens_generate h',
    Resolver.sorted_filter_of_subset hs, List.filter_filter, List.filter_filter]
  apply List.filter_congr
  intro x _
  by_cases hx : x ∈ classes
  · have hcontains : g.resolved.contains x = g'.resolved.contains x :=
      Table.contains_eq_of_filter (entries_of_subset hs h h') fun _ => decide_eq_true hx
    rw [hcontains, Bool.and_comm]
  · simp [hx]

theorem css_generate (h : c.generate classes banner = .ok g) :
    g.css = c.bannered banner
      (render (sheetOf Vocabulary.breakpoints c.opening (sourced Vocabulary.breakpoints g.resolved))) := by
  rw [(generate_eq_ok h).2, sections_eq_sheetOf]

/-- The same classes, in any order and however often, have the same generation. Some of the classes of a
generation have one as well: the classes with rules and those without are those of the larger one, and the
sheet has the same opening and at each place the blocks that come from them, all in the same order. -/
theorem generate_restricts (c : Config) (classes classes' : List String) (banner : Bool) :
    ((∀ x, x ∈ classes ↔ x ∈ classes') → c.generate classes banner = c.generate classes' banner) ∧
    (classes ⊆ classes' → ∀ g', c.generate classes' banner = .ok g' →
      ∃ g held held', c.generate classes banner = .ok g ∧
        g.resolved.entries = (g'.resolved.entries.filter fun e => e.1 ∈ classes) ∧
        g.unresolved = (g'.unresolved.filter fun x => x ∈ classes) ∧
        held = sourced Vocabulary.breakpoints g.resolved ∧
        held' = sourced Vocabulary.breakpoints g'.resolved ∧
        (∀ p, held p = (held' p).filter fun b => b.1 ∈ classes) ∧
        g.css = c.bannered banner (render (sheetOf Vocabulary.breakpoints c.opening held)) ∧
        g'.css = c.bannered banner (render (sheetOf Vocabulary.breakpoints c.opening held')) ∧
        ∃ names, Ascending Vocabulary.breakpoints names ∧ ∀ held,
          render (sheetOf Vocabulary.breakpoints c.opening held) =
            sheet (laidOut Vocabulary.breakpoints c.opening names fun p => (held p).map Prod.snd)) := by
  refine ⟨fun h => generate_congr h c banner, fun hs g' h' => ?_⟩
  obtain ⟨g, h⟩ := generates_of_subset hs h'
  have hentries := entries_of_subset hs h h'
  refine ⟨g, _, _, h, hentries, unresolved_of_subset hs h h', rfl, rfl, ?_, css_generate h, css_generate h',
    _, ordered_ascending _, render_sheetOf _ _⟩
  intro p
  have hall : (g.resolved.entries.filter fun _ => true) = g'.resolved.entries.filter fun e => e.1 ∈ classes := by
    rw [List.filter_true, hentries]
  have hp := filter_sourced Vocabulary.breakpoints (fun _ => true) (fun x => x ∈ classes) hall p
  rwa [List.filter_true] at hp

def shelfClasses : List String :=
  ["z-1", "md:dark:p-1", "nothing", "p-1", "dark:p-1", "none"]

theorem generate_restricts_shelf :
    standard.generate ["p-1", "z-1", "p-1"] true = standard.generate ["z-1", "p-1"] true ∧
      ["none", "dark:p-1"] ⊆ shelfClasses ∧
      ∃ g g', standard.generate ["none", "dark:p-1"] true = .ok g ∧ standard.generate shelfClasses true = .ok g' ∧
        g.unresolved = (g'.unresolved.filter fun x => x ∈ ["none", "dark:p-1"]) ∧
        sourced Vocabulary.breakpoints g.resolved ⟨some .dark, none⟩ =
          (sourced Vocabulary.breakpoints g'.resolved ⟨some .dark, none⟩).filter fun b =>
            b.1 ∈ ["none", "dark:p-1"] := by
  have hplain : ∀ token ∈ shelfClasses, standard.resolver.presetClasses? (standard.resolver.baseOf token) = none ∧
      (standard.resolver.plainRules token).isOk = true := by
    rw [resolver_eq_listed]
    decide +kernel
  have hsubset : ["none", "dark:p-1"] ⊆ shelfClasses := by decide
  obtain ⟨g', h'⟩ := generates_of_plain hplain true
  obtain ⟨hsame, _⟩ := generate_restricts standard ["p-1", "z-1", "p-1"] ["z-1", "p-1"] true
  obtain ⟨_, hsome⟩ := generate_restricts standard ["none", "dark:p-1"] shelfClasses true
  obtain ⟨g, _, _, h, _, hunresolved, rfl, rfl, hheld, _⟩ := hsome hsubset g' h'
  refine ⟨hsame fun x => ?_, hsubset, g, g', h, h', hunresolved, hheld _⟩
  simp [or_comm]

end Config

end UtilityCss
