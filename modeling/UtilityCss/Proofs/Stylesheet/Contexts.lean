import UtilityCss.Proofs.Stylesheet.Distinct

/-!
The contexts that reach a stylesheet. Whatever presets a token is resolved through, the words in its rules
are words of the tables, so no rule of a generation is laid out by a default: its breakpoint has a section
of its own, its scheme has toggles and its state has a suffix.
-/

namespace UtilityCss

open Stylesheet

variable {breakpoints : Table String String} {c : Context}

theorem Scheme.name_injective : Function.Injective Scheme.name := by
  intro m n h
  rw [← Option.some_inj, ← ofName?_name m, ← ofName?_name n, h]

/-- A context whose breakpoint, scheme and state a stylesheet knows. -/
structure Context.Supported (breakpoints : Table String String) (c : Context) : Prop where
  breakpoint : ∀ b, c.breakpoint = some b → breakpoints.contains b = true
  mode : ∀ m, c.mode = some m → (Scheme.ofName? m).isSome = true
  variant : ∀ v, c.variant = some v → (Vocabulary.variants.get? v).isSome = true

theorem Context.Known.supported (h : c.Known (.ofBreakpoints breakpoints)) : c.Supported breakpoints where
  breakpoint b hb := (breakpoints.contains_iff b).2 (h.breakpoint b hb)
  mode m hm := by
    obtain ⟨s, _, rfl⟩ := List.mem_map.1 (h.mode m hm)
    rw [Scheme.ofName?_name]
    rfl
  variant v hv := (Vocabulary.variants.contains_iff v).2 (h.variant v hv)

theorem Context.Known.mode_cases (h : c.Known (.ofBreakpoints breakpoints)) :
    c.mode = none ∨ c.mode = some "dark" ∨ c.mode = some "light" := by
  rw [mode_of_known h]
  cases schemeOf c with
  | none => exact .inl rfl
  | some m => cases m <;> simp [Scheme.name]

namespace Stylesheet

theorem mem_homes_of_known (h : c.Known (.ofBreakpoints breakpoints)) {p : Place} :
    p ∈ homes breakpoints c ↔
      p.breakpoint = c.breakpoint ∧ ∀ m, p.scheme = some m → c.mode = some m.name := by
  rw [homes_eq, breakpoint_of_known h, mode_of_known h, List.mem_cons, Option.mem_toList, Option.map_eq_some_iff]
  obtain ⟨scheme, breakpoint⟩ := p
  cases scheme with
  | none => simp
  | some m =>
    cases schemeOf c with
    | none => simp
    | some n => simp [Scheme.name_injective.eq_iff, eq_comm, and_comm]

variable {rules : Table String (List Rule)}

theorem rows_of_resident {o : Opening} {p : Place} {k : String × Context} {name : String}
    (hp : p.breakpoint = some name) (h : k ∈ residents breakpoints rules p) :
    ∃ rows, nested ("@media " ++ condition breakpoints p) rows ∈
        laidOut breakpoints o (ordered breakpoints) (blocksAt breakpoints rules) ∧
      (blockAt rules p k).laid <:+: rows := by
  have hplace := homes_subset_places breakpoints k.2 (of_decide_eq_true (List.mem_filter.1 h).2)
  have hblock : blockAt rules p k ∈ blocksAt breakpoints rules p := List.mem_map_of_mem h
  have hbase : p ≠ ⟨none, none⟩ := by
    rintro rfl
    cases hp
  refine ⟨(blocksAt breakpoints rules p).flatMap Block.laid, ?_, ?_⟩
  · rw [laidOut, List.mem_append]
    refine .inr (List.mem_map.2 ⟨p, List.mem_filter.2 ⟨hplace, ?_⟩, ?_⟩)
    · exact decide_eq_true (List.ne_nil_of_mem hblock)
    · rw [sectionRows, if_neg hbase]
  · obtain ⟨before, after, he⟩ := List.append_of_mem hblock
    rw [he, List.flatMap_append, List.flatMap_cons]
    exact ⟨_, _, List.append_assoc ..⟩

theorem condition_of_breakpoint {p : Place} {name width : String} (hp : p.breakpoint = some name)
    (hw : breakpoints.get? name = some width) :
    condition breakpoints p =
      ((p.scheme.map (schemeText · ++ " and ")).getD "") ++ ("(min-width: " ++ width ++ ")") := by
  obtain ⟨scheme, breakpoint⟩ := p
  cases hp
  cases scheme <;> simp [condition, hw]

theorem lines_blockAt {token : String} {rs : List Rule} (hrs : rules.get? token = some rs) {r : Rule}
    (hr : r ∈ rs) (p : Place) : r.lines <:+: (blockAt rules p (token, r.context)).lines := by
  rw [blockAt, hrs, Option.getD_some, Rule.linesIn]
  have hmem : r ∈ rs.filter fun s => s.context = r.context := List.mem_filter.2 ⟨hr, decide_eq_true rfl⟩
  obtain ⟨before, after, he⟩ := List.append_of_mem hmem
  rw [he, List.flatMap_append, List.flatMap_cons]
  exact ⟨_, _, List.append_assoc ..⟩

end Stylesheet

def Resolver.withBreakpoints (r : Resolver) (breakpoints : Table String String) : Resolver :=
  { r with breakpoints := breakpoints }

/-- The rules of a token over the built-in utilities hold in contexts of known words, whichever presets they
come through. So the contexts of a generation are all supported by its stylesheet, and a rule under a
breakpoint stands in the media sections of that breakpoint: in the one for all readers, in that of its
scheme if it has one, and in no other section. -/
theorem Config.contexts_have_sections :
    (∀ theme presets breakpoints seen token rules,
      ((Resolver.standard theme presets).withBreakpoints breakpoints).resolve seen token = .ok rules →
      ∀ rule ∈ rules,
        (∀ b, rule.context.breakpoint = some b → b ∈ breakpoints.keys) ∧
        (rule.context.mode = none ∨ rule.context.mode = some "dark" ∨ rule.context.mode = some "light") ∧
        (∀ v, rule.context.variant = some v → v ∈ Vocabulary.variants.keys) ∧
        (rule.context.selector = none ∨ rule.context.selector = some "& > * + *")) ∧
    ∀ (c : Config) classes banner g, c.generate classes banner = .ok g →
      ∃ names parts, Ascending Vocabulary.breakpoints names ∧
        parts = laidOut Vocabulary.breakpoints c.opening names (blocksAt Vocabulary.breakpoints g.resolved) ∧
        g.css = c.bannered banner (sheet parts) ∧
        ∀ token rules, (token, rules) ∈ g.resolved.entries → ∀ rule ∈ rules,
          rule.context.Supported Vocabulary.breakpoints ∧
          ∀ name, rule.context.breakpoint = some name →
            ∃ width, (name, width) ∈ Vocabulary.breakpoints.entries ∧
              ∀ p, ((token, rule.context) ∈ residents Vocabulary.breakpoints g.resolved p ↔
                  p.breakpoint = some name ∧ ∀ m, p.scheme = some m → rule.context.mode = some m.name) ∧
                ((token, rule.context) ∈ residents Vocabulary.breakpoints g.resolved p →
                  ∃ scheme rows block, scheme = (p.scheme.map (schemeText · ++ " and ")).getD "" ∧
                    nested ("@media " ++ scheme ++ "(min-width: " ++ width ++ ")") rows ∈ parts ∧
                    block = blockAt g.resolved p (token, rule.context) ∧
                    block.laid <:+: rows ∧ rule.lines <:+: block.lines) := by
  constructor
  · intro theme presets breakpoints seen token rules h rule hr
    have hutilities : ((Resolver.standard theme presets).withBreakpoints breakpoints).utilities = Entry.standard :=
      rfl
    have hknown : rule.context.Known (.ofBreakpoints breakpoints) := Resolver.known_resolve hutilities h rule hr
    exact ⟨hknown.breakpoint, hknown.mode_cases, hknown.variant, hknown.selector⟩
  · intro c classes banner g h
    refine ⟨_, _, ordered_ascending _, rfl, ?_, fun token rules he rule hr => ?_⟩
    · rw [(generate_eq_ok h).2, render_sections]
    have hknown := known_generate h _ he rule hr
    have hrules := (g.resolved.get?_eq_some_iff token rules).2 he
    have hkeyed : (token, rule.context) ∈ keyed g.resolved :=
      (mem_keyed g.resolved).2 ⟨rules, hrules, rule, hr, rfl⟩
    refine ⟨hknown.supported, fun name hname => ?_⟩
    obtain ⟨width, hwidth⟩ := Option.isSome_iff_exists.1 (hknown.supported.breakpoint name hname)
    refine ⟨width, (Vocabulary.breakpoints.get?_eq_some_iff name width).1 hwidth, fun p => ?_⟩
    have hresident : (token, rule.context) ∈ residents Vocabulary.breakpoints g.resolved p ↔
        p.breakpoint = some name ∧ ∀ m, p.scheme = some m → rule.context.mode = some m.name := by
      rw [residents, List.mem_filter, decide_eq_true_eq, mem_homes_of_known hknown, hname]
      exact and_iff_right hkeyed
    refine ⟨hresident, fun hp => ?_⟩
    obtain ⟨rows, hrows, hblock⟩ := rows_of_resident (hresident.1 hp).1 hp
    refine ⟨_, rows, _, rfl, ?_, rfl, hblock, lines_blockAt hrules hr p⟩
    rw [condition_of_breakpoint (hresident.1 hp).1 hwidth] at hrows
    simpa only [String.append_assoc] using hrows

def nestedResolver : Resolver :=
  (Resolver.standard .standard (.ofList [("card", "tall:p-1 dark:hover:space-x-1")])).withBreakpoints
    (.ofList [("wide", "64em"), ("tall", "40em")])

theorem Config.contexts_have_sections_nested :
    (∃ rules, nestedResolver.resolve [] "wide:card" = .ok rules ∧
      ⟨some "wide", some "dark", some "hover", some "& > * + *"⟩ ∈ rules.map Rule.context ∧
      ∀ rule ∈ rules, ∀ b, rule.context.breakpoint = some b → b ∈ ["wide", "tall"]) ∧
    ∃ g names parts, standard.generate ["md:dark:p-1"] true = .ok g ∧
      parts = laidOut Vocabulary.breakpoints standard.opening names (blocksAt Vocabulary.breakpoints g.resolved) ∧
      g.css = standard.bannered true (sheet parts) ∧
      ∃ rows, nested "@media (prefers-color-scheme: dark) and (min-width: 768px)" rows ∈ parts ∧
        [".md\\:dark\\:p-1 \x7b", "  padding: 0.25rem;", "\x7d"] <:+: rows := by
  constructor
  · have hexpands : nestedResolver.Expands [] "wide:card" ["tall:p-1", "dark:hover:space-x-1"] :=
      ⟨by decide +kernel, List.not_mem_nil, by decide +kernel⟩
    have hclasses : ∀ c ∈ ["tall:p-1", "dark:hover:space-x-1"],
        nestedResolver.presetClasses? (nestedResolver.baseOf c) = none := by
      rw [nestedResolver, Resolver.standard_eq_listed]
      decide +kernel
    have hresolve : nestedResolver.resolve [] "wide:card" =
        (["tall:p-1", "dark:hover:space-x-1"].mapM nestedResolver.plainRules).map
          (nestedResolver.gathered "wide:card") := by
      rw [Resolver.resolve_of_expands _ hexpands,
        Outcome.mapM_congr fun c hc => nestedResolver.resolve_of_not_preset (hclasses c hc)]
    have hrules : (["tall:p-1", "dark:hover:space-x-1"].mapM nestedResolver.plainRules).map
          (nestedResolver.gathered "wide:card") =
        .ok [⟨["padding: 0.25rem;"], ⟨some "tall", none, none, none⟩⟩,
          ⟨["margin-left: 0.25rem;"], ⟨some "wide", some "dark", some "hover", some "& > * + *"⟩⟩] := by
      rw [nestedResolver, Resolver.standard_eq_listed]
      decide +kernel
    refine ⟨_, hresolve.trans hrules, by simp, fun rule hr => ?_⟩
    exact (contexts_have_sections.1 _ _ _ _ _ _ (hresolve.trans hrules) rule hr).1
  · have hresolves : ∀ e ∈ [("md:dark:p-1", [⟨["padding: 0.25rem;"], ⟨some "md", some "dark", none, none⟩⟩])],
        standard.resolver.resolve [] e.1 = .ok e.2 ∧ e.2 ≠ [] := by
      rw [resolver_eq_listed]
      exact Resolver.resolve_entries _ (by decide +kernel)
    obtain ⟨g, hg, hentries⟩ := exists_entries_generate (by decide) (by decide) hresolves true
    obtain ⟨names, parts, _, hparts, hcss, hrules⟩ := contexts_have_sections.2 _ _ _ g hg
    have hentry : ("md:dark:p-1", [⟨["padding: 0.25rem;"], ⟨some "md", some "dark", none, none⟩⟩]) ∈
        g.resolved.entries := hentries ▸ List.mem_singleton.2 rfl
    obtain ⟨width, hwidth, hplaces⟩ := (hrules _ _ hentry _ (List.mem_singleton.2 rfl)).2 "md" rfl
    obtain ⟨hresident, hrows⟩ := hplaces ⟨some .dark, some "md"⟩
    obtain ⟨_, rows, block, rfl, hnested, rfl, hlaid, _⟩ := hrows (hresident.2 ⟨rfl, by simp [Scheme.name]⟩)
    have hmd : Vocabulary.breakpoints.get? "md" = some "768px" := by decide
    have htext : width = "768px" :=
      Option.some_inj.1 (((Vocabulary.breakpoints.get?_eq_some_iff _ _).2 hwidth).symm.trans hmd)
    refine ⟨g, names, parts, hg, hparts, hcss, rows, ?_, ?_⟩
    · rw [htext] at hnested
      exact hnested
    · rw [blockAt, (g.resolved.get?_eq_some_iff _ _).2 hentry] at hlaid
      exact hlaid

end UtilityCss
