import UtilityCss.Proofs.Expansion.Collection
import UtilityCss.Proofs.Expansion.Origins
import UtilityCss.Proofs.Selector.Shape
import UtilityCss.Proofs.Stylesheet.Sheet

namespace UtilityCss

open Selector Outcome

theorem Context.Known.stated {breakpoints : Table String String} {c : Context}
    (h : c.Known (.ofBreakpoints breakpoints)) : Stated c := by
  have hvariant : c.variant ∈ none :: Vocabulary.variants.keys.map some := by
    cases hv : c.variant with
    | none => exact List.mem_cons_self ..
    | some v => exact List.mem_cons_of_mem _ (List.mem_map_of_mem (h.variant v hv))
  have hselector : c.selector ∈ [none, some Family.laterChildren] := by simpa using h.selector
  exact List.pair_mem_product.2 ⟨hvariant, hselector⟩

namespace Stylesheet

def toggleFront (m : Scheme) : List Char :=
  match m with
  | .dark => "[data-theme=\"dark\"] ".toList
  | .light => "[data-theme=\"light\"] ".toList

def toggleMiddle (m : Scheme) : List Char :=
  match m with
  | .dark => ", .dark-mode ".toList
  | .light => ", .light-mode ".toList

theorem toList_toggled (m : Scheme) (s : String) :
    (toggled m s).toList = toggleFront m ++ (s.toList ++ (toggleMiddle m ++ s.toList)) := by
  have hpair (a b : String) : (", ".intercalate [a, b]).toList = a.toList ++ (", ".toList ++ b.toList) := by
    rw [String.toList_intercalate, List.map_cons, List.map_singleton, List.intercalate_cons_cons,
      List.intercalate_singleton]
    simp
  rw [toggled]
  cases m <;> rw [Scheme.toggles, List.map_cons, List.map_singleton, hpair] <;>
    simp only [String.toList_append, List.append_assoc] <;> rfl

theorem toggleFront_distinct {m n : Scheme} (h : (toggleFront m).take 14 = (toggleFront n).take 14) :
    m = n := by
  revert h
  cases m <;> cases n <;> decide

theorem toggled_injective {m n : Scheme} {s t : String} (h : toggled m s = toggled n t) : m = n ∧ s = t := by
  have hlong (m : Scheme) : 14 ≤ (toggleFront m).length := by cases m <;> decide
  rw [← String.toList_inj, toList_toggled, toList_toggled] at h
  have hscheme : m = n := by
    have hfront := congrArg (List.take 14) h
    rw [List.take_append_of_le_length (hlong m), List.take_append_of_le_length (hlong n)] at hfront
    exact toggleFront_distinct hfront
  subst hscheme
  rw [List.append_cancel_left_eq] at h
  have hlength : s.toList.length = t.toList.length := by
    have hl := congrArg List.length h
    simp only [List.length_append] at hl
    omega
  exact ⟨rfl, String.toList_inj.1 (List.append_inj h hlength).1⟩

theorem toggled_ne_build {token : String} {c : Context} (hc : Stated c) (m : Scheme) (s : String) :
    toggled m s ≠ build Vocabulary.variants token c := by
  intro h
  have hhead := head?_build token hc
  rw [← h, toList_toggled] at hhead
  cases m <;> cases hhead

def toggleAt (p : Place) (c : Context) : Option Scheme :=
  match p.scheme with
  | none => schemeOf c
  | some _ => none

theorem selector_blockAt (rules : Table String (List Rule)) (p : Place) (k : String × Context) :
    (blockAt rules p k).selector =
      match toggleAt p k.2 with
      | some m => toggled m (build Vocabulary.variants k.1 k.2)
      | none => build Vocabulary.variants k.1 k.2 := by
  rw [blockAt_eq, toggleAt]
  cases p.scheme <;> cases schemeOf k.2 <;> rfl

theorem selector_blockAt_injective {rules : Table String (List Rule)} {p q : Place}
    {k l : String × Context} (hk : Stated k.2) (hl : Stated l.2)
    (h : (blockAt rules p k).selector = (blockAt rules q l).selector) :
    toggleAt p k.2 = toggleAt q l.2 ∧ k.1 = l.1 ∧ k.2.variant = l.2.variant ∧ k.2.selector = l.2.selector := by
  rw [selector_blockAt, selector_blockAt] at h
  cases hp : toggleAt p k.2 with
  | none =>
    cases hq : toggleAt q l.2 with
    | none =>
      rw [hp, hq] at h
      exact ⟨rfl, build_injective hk hl h⟩
    | some n =>
      rw [hp, hq] at h
      exact absurd h.symm (toggled_ne_build hk n _)
  | some m =>
    cases hq : toggleAt q l.2 with
    | none =>
      rw [hp, hq] at h
      exact absurd h (toggled_ne_build hl m _)
    | some n =>
      rw [hp, hq] at h
      obtain ⟨rfl, hb⟩ := toggled_injective h
      exact ⟨rfl, build_injective hk hl hb⟩

variable {breakpoints : Table String String} {c d : Context}

theorem mode_of_known (h : c.Known (.ofBreakpoints breakpoints)) : c.mode = (schemeOf c).map Scheme.name := by
  rw [schemeOf_eq]
  cases hm : c.mode with
  | none => rfl
  | some s =>
    obtain ⟨m, _, rfl⟩ := List.mem_map.1 (h.mode s hm)
    rw [Option.bind_some, Scheme.ofName?_name]
    rfl

theorem mode_of_schemeOf (h : c.Known (.ofBreakpoints breakpoints)) (he : schemeOf c = schemeOf d)
    (hd : d.Known (.ofBreakpoints breakpoints)) : c.mode = d.mode := by
  rw [mode_of_known h, mode_of_known hd, he]

theorem breakpoint_of_known (h : c.Known (.ofBreakpoints breakpoints)) :
    knownBreakpoint breakpoints c = c.breakpoint := by
  rw [knownBreakpoint]
  cases hb : c.breakpoint with
  | none => rfl
  | some b =>
    have hc : breakpoints.contains b = true := (breakpoints.contains_iff b).2 (h.breakpoint b hb)
    rw [Option.filter, if_pos hc]

theorem eq_of_home {p : Place} (hc : c.Known (.ofBreakpoints breakpoints))
    (hd : d.Known (.ofBreakpoints breakpoints)) (hpc : p ∈ homes breakpoints c) (hpd : p ∈ homes breakpoints d)
    (ht : toggleAt p c = toggleAt p d) (hv : c.variant = d.variant) (hs : c.selector = d.selector) :
    c = d := by
  have hbreakpoint {c : Context} (hc : c.Known (.ofBreakpoints breakpoints)) (hp : p ∈ homes breakpoints c) :
      c.breakpoint = p.breakpoint := by
    rw [homes_eq, breakpoint_of_known hc] at hp
    rcases List.mem_cons.1 hp with rfl | hp
    · rfl
    · obtain ⟨m, _, rfl⟩ := by simpa using hp
      rfl
  have hscheme {c : Context} (hp : p ∈ homes breakpoints c) {m : Scheme} (hm : p.scheme = some m) :
      schemeOf c = some m := by
    rw [homes_eq] at hp
    rcases List.mem_cons.1 hp with rfl | hp
    · cases hm
    · obtain ⟨m', hm', rfl⟩ := by simpa using hp
      exact hm'.trans hm
  have hmode : c.mode = d.mode := by
    apply mode_of_schemeOf hc _ hd
    cases hm : p.scheme with
    | none => simpa [toggleAt, hm] using ht
    | some m => rw [hscheme hpc hm, hscheme hpd hm]
  have hb := (hbreakpoint hc hpc).trans (hbreakpoint hd hpd).symm
  cases c
  cases d
  simp_all

theorem nodup_selectors {rules : Table String (List Rule)}
    (h : ∀ e ∈ rules.entries, ∀ r ∈ e.2, r.context.Known (.ofBreakpoints breakpoints)) (p : Place) :
    ((blocksAt breakpoints rules p).map Block.selector).Nodup := by
  have hknown : ∀ k ∈ residents breakpoints rules p,
      k.2.Known (.ofBreakpoints breakpoints) ∧ p ∈ homes breakpoints k.2 := by
    rintro ⟨token, c⟩ hk
    obtain ⟨hk, hp⟩ := List.mem_filter.1 hk
    obtain ⟨rs, hrs, r, hr, rfl⟩ := (mem_keyed rules).1 hk
    exact ⟨h _ ((rules.get?_eq_some_iff token rs).1 hrs) r hr, of_decide_eq_true hp⟩
  rw [blocksAt, List.map_map]
  apply ((nodup_keyed rules).filter _).map_on
  intro k hk l hl he
  obtain ⟨hkk, hkp⟩ := hknown k hk
  obtain ⟨hlk, hlp⟩ := hknown l hl
  obtain ⟨ht, htoken, hv, hs⟩ := selector_blockAt_injective hkk.stated hlk.stated he
  exact Prod.ext htoken (eq_of_home hkk hlk hkp hlp ht hv hs)

def Section.blocks : Section → List Block
  | base blocks => blocks
  | media _ blocks => blocks
  | root _ => []
  | verbatim _ => []

theorem sections_blocks {o : Opening} {rules : Table String (List Rule)} {s : Section}
    (h : s ∈ sections o breakpoints rules) : s.blocks = [] ∨ ∃ p, s.blocks = blocksAt breakpoints rules p := by
  rw [sections, ruleSections_eq, List.mem_append] at h
  rcases h with h | h
  · left
    rw [Opening.sections, List.mem_append, Option.mem_toList, Option.mem_toList] at h
    rcases h with h | h
    · obtain ⟨properties, _, rfl⟩ := Option.map_eq_some_iff.1 h
      rfl
    · obtain ⟨text, _, rfl⟩ := Option.map_eq_some_iff.1 h
      rfl
  · right
    obtain ⟨p, _, rfl⟩ := List.mem_map.1 h
    refine ⟨p, ?_⟩
    rw [sectionAt]
    split <;> rfl

end Stylesheet

namespace Config

def knownVariants : Entry → Prop
  | .declaration d => ∀ v ∈ d.variants, v ∈ Vocabulary.variants.keys
  | _ => True

instance : DecidablePred knownVariants := fun e => by
  cases e <;> unfold knownVariants <;> infer_instance

end Config

namespace Resolver

theorem closed_of_standard {r : Resolver} (h : r.utilities = Entry.standard) : r.Closed fun _ => True where
  append _ _ _ _ := trivial
  plain _ _ := trivial
  variants name d hd := by
    have hentries : ∀ e ∈ Entry.standard.entries, Config.knownVariants e.2 :=
      Table.forall_ofList (by decide +kernel)
    rw [h] at hd
    exact hentries _ ((Table.get?_eq_some_iff _ _ _).1 hd)
  declarations _ _ _ _ _ _ _ := ⟨trivial, trivial⟩
  families _ _ _ _ _ := trivial

theorem known_resolve {r : Resolver} (h : r.utilities = Entry.standard) {seen : List String} {token : String}
    {rules : List Rule} (hr : r.resolve seen token = .ok rules) : ∀ rule ∈ rules, rule.context.Known r.words :=
  fun rule hm => (sound_resolve (closed_of_standard h) seen token
    (fun _ _ _ => ⟨fun _ => trivial, fun _ _ => trivial⟩) rules hr rule hm).context

end Resolver

namespace Config

open Stylesheet

theorem known_generate {c : Config} {classes : List String} {banner : Bool} {g : Generation}
    (h : c.generate classes banner = .ok g) :
    ∀ e ∈ g.resolved.entries, ∀ r ∈ e.2, r.context.Known (.ofBreakpoints Vocabulary.breakpoints) := by
  rintro ⟨token, rules⟩ he r hr
  obtain ⟨_, hresolve, _⟩ := (mem_resolved h).1 he
  exact Resolver.known_resolve rfl hresolve r hr

/-- No two blocks of a section of a stylesheet have the same selector, and blocks of any sections that do
come from the same class. A selector tells its class, state and elements. -/
theorem generate_selectors_distinct (c : Config) :
    (∀ classes banner g, c.generate classes banner = .ok g →
      ∃ parts names held, parts = sections c.opening Vocabulary.breakpoints g.resolved ∧
        Ascending Vocabulary.breakpoints names ∧ held = blocksAt Vocabulary.breakpoints g.resolved ∧
        g.css = c.bannered banner (render parts) ∧
        render parts = sheet (laidOut Vocabulary.breakpoints c.opening names held) ∧
        (∀ part ∈ parts, (part.blocks.map Block.selector).Nodup) ∧
        (∀ p, ((held p).map Block.selector).Nodup) ∧
        ∀ p q, ∀ k ∈ residents Vocabulary.breakpoints g.resolved p,
          ∀ l ∈ residents Vocabulary.breakpoints g.resolved q,
          (blockAt g.resolved p k).selector = (blockAt g.resolved q l).selector → k.1 = l.1) ∧
    ∀ token other d e, Stated d → Stated e →
      Selector.build Vocabulary.variants token d = Selector.build Vocabulary.variants other e →
      token = other ∧ d.variant = e.variant ∧ d.selector = e.selector := by
  refine ⟨?_, fun token other d e hd he => build_injective hd he⟩
  intro classes banner g h
  have hknown := known_generate h
  refine ⟨_, _, _, rfl, ordered_ascending _, rfl, (generate_eq_ok h).2, render_sections _ _ _, ?_,
    nodup_selectors hknown, ?_⟩
  · intro part hp
    rcases sections_blocks hp with hb | ⟨p, hb⟩
    · rw [hb]
      exact List.nodup_nil
    · rw [hb]
      exact nodup_selectors hknown p
  · have hstated : ∀ p, ∀ k ∈ residents Vocabulary.breakpoints g.resolved p, Stated k.2 := by
      rintro p ⟨token, d⟩ hk
      obtain ⟨rs, hrs, r, hr, rfl⟩ := (mem_keyed g.resolved).1 (List.mem_filter.1 hk).1
      exact (hknown _ ((g.resolved.get?_eq_some_iff token rs).1 hrs) r hr).stated
    intro p q k hk l hl he
    exact (selector_blockAt_injective (hstated p k hk) (hstated q l hl) he).2.1

def panelClasses : List String :=
  ["1", "p-1", "dark:p-1", "md:dark:p-1", "md:hover:p-1", "group-hover:p-1", "space-x-1", "hover:space-x-1"]

theorem generate_selectors_distinct_panel :
    (∃ g, standard.generate panelClasses true = .ok g ∧
      ("dark:p-1", ⟨none, some "dark", none, none⟩) ∈
        residents Vocabulary.breakpoints g.resolved ⟨none, none⟩ ∧
      ∃ parts, parts = sections standard.opening Vocabulary.breakpoints g.resolved ∧
        ∀ part ∈ parts, (part.blocks.map Block.selector).Nodup) ∧
    Selector.build Vocabulary.variants "1" ⟨none, none, some "group-focus", some "& > * + *"⟩ ≠
      Selector.build Vocabulary.variants "1 " ⟨none, none, some "group-focus", none⟩ := by
  have hplain : ∀ token ∈ panelClasses,
      standard.resolver.presetClasses? (standard.resolver.baseOf token) = none ∧
        (standard.resolver.plainRules token).isOk = true := by
    rw [resolver_eq_listed]
    decide +kernel
  have hrules : standard.resolver.plainRules "dark:p-1" =
      .ok [⟨["padding: 0.25rem;"], ⟨none, some "dark", none, none⟩⟩] := by
    rw [resolver_eq_listed]
    decide +kernel
  obtain ⟨hsections, hselectors⟩ := generate_selectors_distinct standard
  constructor
  · obtain ⟨g, hg⟩ := generates_of_plain hplain true
    obtain ⟨parts, _, _, hparts, _, _, _, _, hnodup, _⟩ := hsections _ _ g hg
    refine ⟨g, hg, ?_, parts, hparts, hnodup⟩
    have hresolve : standard.resolver.resolve [] "dark:p-1" = _ :=
      (standard.resolver.resolve_of_not_preset (hplain _ (by decide)).1).trans hrules
    have hentry := (mem_resolved hg).2 ⟨by decide, hresolve, by simp⟩
    refine List.mem_filter.2 ⟨(mem_keyed g.resolved).2 ⟨_, (g.resolved.get?_eq_some_iff _ _).2 hentry, ?_⟩, ?_⟩
    · exact ⟨_, List.mem_singleton.2 rfl, rfl⟩
    · decide
  · intro he
    have htoken := (hselectors "1" "1 " _ _ (by decide +kernel) (by decide +kernel) he).1
    revert htoken
    decide

end Config

end UtilityCss
