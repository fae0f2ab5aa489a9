import UtilityCss.Proofs.Stylesheet.Emission

/-!
The text of a stylesheet, row by row. Every context of a token has one block in the section of its breakpoint,
and one more in the section of its colour scheme if it has one; nothing else stands between the sections, which
follow each other by scheme and by width.
-/

namespace UtilityCss.Stylesheet

variable (breakpoints : Table String String)

def schemeText : Scheme → String
  | .dark => "(prefers-color-scheme: dark)"
  | .light => "(prefers-color-scheme: light)"

def condition (p : Place) : String :=
  let width (name : String) : String := "(min-width: " ++ (breakpoints.get? name).getD "" ++ ")"
  match p.scheme, p.breakpoint with
  | none, none => ""
  | none, some name => width name
  | some m, none => schemeText m
  | some m, some name => schemeText m ++ " and " ++ width name

def sectionRows (p : Place) (blocks : List Block) : List String :=
  let rows := blocks.flatMap Block.laid
  if p = ⟨none, none⟩ then rows else nested ("@media " ++ condition breakpoints p) rows

def Opening.rows (o : Opening) : List (List String) :=
  (o.properties.map rootRows).toList ++
    ((o.preamble.filter (· ≠ "")).map fun text => [Text.trimmed text]).toList

/-- A sheet that has a section for each place with a block. -/
def laidOut (o : Opening) (names : List String) (held : Place → List Block) : List (List String) :=
  o.rows ++ ((places names).filter fun p => held p ≠ []).map fun p => sectionRows breakpoints p (held p)

theorem condition_eq (p : Place) : condition breakpoints p = query breakpoints p := by
  have hscheme (m : Scheme) : schemeText m = schemeQuery m := by cases m <;> decide
  obtain ⟨scheme, breakpoint⟩ := p
  cases scheme <;> cases breakpoint <;> simp only [condition, query, hscheme, widthQuery]

theorem rows_opening (o : Opening) : o.rows.map "\n".intercalate = o.sections.map Section.text := by
  have hone (s : String) : "\n".intercalate [s] = s := String.intercalate_singleton
  have hfilter : o.preamble.filter (· ≠ "") = o.preamble.filter (!·.isEmpty) := by
    congr 1
    funext s
    rw [Bool.eq_iff_iff]
    simp
  rw [Opening.rows, Opening.sections, hfilter, List.map_append, List.map_append]
  congr 1
  · cases o.properties with
    | none => rfl
    | some ps => exact congrArg (fun text => [text]) (rootText_eq ps).symm
  · cases o.preamble.filter (!·.isEmpty) with
    | none => rfl
    | some s => exact congrArg (fun text => [text]) (hone _)

theorem section_text {p : Place} {blocks : List Block} (hne : blocks ≠ []) :
    (if p = ⟨none, none⟩ then Section.base blocks else .media (query breakpoints p) blocks).text =
      "\n".intercalate (sectionRows breakpoints p blocks) := by
  rw [sectionRows]
  split
  · exact base_laid blocks
  · rw [condition_eq]
    exact media_laid hne _

theorem render_held (o : Opening) (held : Place → List Block) :
    render (o.sections ++ ((places (ordered breakpoints)).filter fun p => !(held p).isEmpty).map fun p =>
      if p = ⟨none, none⟩ then .base (held p) else .media (query breakpoints p) (held p)) =
        sheet (laidOut breakpoints o (ordered breakpoints) held) := by
  have hfilter (p : Place) : decide (held p ≠ []) = !(held p).isEmpty := by
    rw [Bool.eq_iff_iff]
    simp
  rw [render, sheet, laidOut, List.map_append, List.map_append, rows_opening]
  simp only [hfilter]
  rw [List.map_map, List.map_map]
  congr 3
  apply List.map_congr_left
  intro p hp
  apply section_text
  simpa using (List.mem_filter.1 hp).2

theorem render_sections (o : Opening) (rules : Table String (List Rule)) :
    render (sections o breakpoints rules) =
      sheet (laidOut breakpoints o (ordered breakpoints) (blocksAt breakpoints rules)) := by
  rw [sections, ruleSections_eq]
  exact render_held breakpoints o (blocksAt breakpoints rules)

/-- A stylesheet without a preamble has the properties, if they are asked for, and then a section for each
place that something resides at: the base, the widths in ascending order, and the base and the widths of
each scheme. Each context of each token resides once at each of its places, which all have their section,
and at no other. -/
theorem emit_places_each_context_once (properties : Option (List (String × String)))
    (breakpoints : Table String String) (rules : Table String (List Rule)) :
    ∃ names, Ascending breakpoints names ∧ (places names).Nodup ∧
      (∀ p token c, (token, c) ∈ residents breakpoints rules p ↔
        (∃ rs, (token, rs) ∈ rules.entries ∧ ∃ r ∈ rs, r.context = c) ∧ p ∈ homes breakpoints c) ∧
      (∀ p, (residents breakpoints rules p).Nodup) ∧
      (∀ c, ∀ p ∈ homes breakpoints c, p ∈ places names) ∧
      emit ⟨properties, none⟩ breakpoints rules =
        sheet (laidOut breakpoints ⟨properties, none⟩ names (blocksAt breakpoints rules)) := by
  have hasc := ordered_ascending breakpoints
  refine ⟨ordered breakpoints, hasc, nodup_places (hasc.perm.nodup_iff.2 breakpoints.distinct), ?_, ?_,
    fun c p => homes_subset_places breakpoints c, render_sections breakpoints _ rules⟩
  · intro p token c
    rw [residents, List.mem_filter, mem_keyed]
    simp [rules.get?_eq_some_iff]
  · intro p
    exact (nodup_keyed rules).filter _

def panelWidths : Table String String :=
  .ofList [("wide", "64em"), ("auto", "fit-content"), ("tall", "64px"), ("slim", "9.5em")]

theorem ascending_panel : Ascending panelWidths ["auto", "slim", "wide", "tall"] := by
  let width (name : String) : Number.Binary64 := leastWidth ((panelWidths.get? name).getD "")
  have hle (a b : String) : (width a).le (width b) = true ↔ (width a).value ≤ (width b).value :=
    Number.Binary64.le_iff (leastWidth_ne_nan _) (leastWidth_ne_nan _)
  have hpairs : ["auto", "slim", "wide", "tall"].Pairwise fun a b => ¬ (width b).le (width a) = true ∨
      (width a).le (width b) = true ∧ (width b).le (width a) = true ∧ [a, b].Sublist panelWidths.keys := by
    decide +kernel
  refine ⟨by decide, width, ?_, hpairs.imp ?_⟩
  · have hwidths : ∀ e ∈ panelWidths.entries, width e.1 = leastWidth e.2 := by decide +kernel
    exact fun e he => (startsWith_iff _ _).2 (hwidths e he)
  · intro a b hab
    rw [hle, hle, not_le] at hab
    exact hab.imp_right fun ⟨h, h', hs⟩ => ⟨le_antisymm h h', hs⟩

def panelRules : Table String (List Rule) := .ofList [
  ("panel", [⟨["color: red;", "top: 0;"], ⟨some "tall", some "dark", none, none⟩⟩,
    ⟨["left: 0;"], ⟨some "round", none, some "hover", none⟩⟩,
    ⟨["right: 0;"], ⟨some "tall", some "dark", none, none⟩⟩]),
  ("empty", []),
  ("1/2", [⟨["width: 50%;"], ⟨some "wide", some "light", none, none⟩⟩,
    ⟨["width: auto;"], ⟨none, some "light", some "group-hover", none⟩⟩]),
  ("list", [⟨[], ⟨some "slim", none, none, some "& > * + *"⟩⟩])]

theorem emit_places_each_context_once_panel : emit ⟨some [("--gap", "1px")], none⟩ panelWidths panelRules =
    "\n".intercalate
      [":root \x7b", "  --gap: 1px;", "\x7d", "", ".panel:hover \x7b", "  left: 0;", "\x7d",
        "[data-theme=\"light\"] .group:hover .\\31 \\/2, .light-mode .group:hover .\\31 \\/2 \x7b",
        "  width: auto;", "\x7d", "",
        "@media (min-width: 9.5em) \x7b", "  .list > * + * \x7b", "", "  \x7d", "\x7d", "",
        "@media (min-width: 64em) \x7b", "  [data-theme=\"light\"] .\\31 \\/2, .light-mode .\\31 \\/2 \x7b",
        "    width: 50%;", "  \x7d", "\x7d", "",
        "@media (min-width: 64px) \x7b", "  [data-theme=\"dark\"] .panel, .dark-mode .panel \x7b",
        "    color: red;", "    top: 0;", "    right: 0;", "  \x7d", "\x7d", "",
        "@media (prefers-color-scheme: dark) and (min-width: 64px) \x7b", "  .panel \x7b", "    color: red;",
        "    top: 0;", "    right: 0;", "  \x7d", "\x7d", "",
        "@media (prefers-color-scheme: light) \x7b", "  .group:hover .\\31 \\/2 \x7b", "    width: auto;",
        "  \x7d", "\x7d", "",
        "@media (prefers-color-scheme: light) and (min-width: 64em) \x7b", "  .\\31 \\/2 \x7b",
        "    width: 50%;", "  \x7d", "\x7d"] ++ "\n" := by
  obtain ⟨names, hasc, _, _, _, _, htext⟩ :=
    emit_places_each_context_once (some [("--gap", "1px")]) panelWidths panelRules
  rw [htext, hasc.unique ascending_panel]
  decide +kernel

end UtilityCss.Stylesheet
