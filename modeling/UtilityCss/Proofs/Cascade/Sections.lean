import UtilityCss.Proofs.Cascade.Style
import UtilityCss.Proofs.Stylesheet.Distinct

namespace UtilityCss.Stylesheet

def Section.lines (s : Section) : List String :=
  s.blocks.flatMap Block.lines

variable {breakpoints : Table String String} {rules : Table String (List Rule)} {c : Context}

def Common (c : Context) (rules : Table String (List Rule)) : Prop :=
  ∀ e ∈ rules.entries, ∃ lines, e.2 = [⟨lines, c⟩]

def linesOfRules (rules : Table String (List Rule)) : List String :=
  rules.entries.flatMap fun e => e.2.flatMap Rule.lines

theorem Common.keyed_eq (h : Common c rules) : keyed rules = rules.entries.map fun e => (e.1, c) := by
  rw [keyed, List.map_eq_flatMap]
  apply List.flatMap_congr
  intro e he
  obtain ⟨lines, hlines⟩ := h e he
  rw [hlines]
  rfl

theorem Common.lines_blockAt (h : Common c rules) {e : String × List Rule} (he : e ∈ rules.entries) (p : Place) :
    (blockAt rules p (e.1, c)).lines = e.2.flatMap Rule.lines := by
  obtain ⟨lines, hlines⟩ := h e he
  rw [blockAt, (rules.get?_eq_some_iff e.1 e.2).2 he, Option.getD_some, hlines, Rule.linesIn]
  simp

theorem Common.blocksAt_eq (h : Common c rules) (p : Place) : blocksAt breakpoints rules p =
    if p ∈ homes breakpoints c then rules.entries.map fun e => blockAt rules p (e.1, c) else [] := by
  rw [blocksAt, residents, h.keyed_eq, List.filter_map, List.map_map]
  by_cases hp : p ∈ homes breakpoints c
  · rw [if_pos hp, List.filter_eq_self.2]
    · rfl
    · intro e _
      simpa using hp
  · rw [if_neg hp, List.filter_eq_nil_iff.2]
    · rfl
    · intro e _
      simpa using hp

theorem Common.lines_section (h : Common c rules) {o : Opening} {s : Section} (hs : s ∈ sections o breakpoints rules) :
    s.blocks = [] ∨ s.lines = linesOfRules rules := by
  rcases sections_blocks hs with hb | ⟨p, hb⟩
  · exact .inl hb
  · rw [Section.lines, hb, h.blocksAt_eq]
    by_cases hp : p ∈ homes breakpoints c
    · right
      rw [if_pos hp, List.flatMap_map, linesOfRules]
      apply List.flatMap_congr
      intro e he
      exact h.lines_blockAt he p
    · exact .inl (if_neg hp)

theorem Common.exists_section (h : Common c rules) (hne : rules.entries ≠ []) (o : Opening) :
    ∃ s ∈ sections o breakpoints rules, s.blocks ≠ [] := by
  let p : Place := ⟨none, knownBreakpoint breakpoints c⟩
  have hp : p ∈ homes breakpoints c := homes_eq breakpoints c ▸ List.mem_cons_self ..
  have hblocks : blocksAt breakpoints rules p ≠ [] := by
    rw [h.blocksAt_eq, if_pos hp]
    simpa using hne
  refine ⟨sectionAt breakpoints rules p, ?_, ?_⟩
  · rw [sections, ruleSections_eq]
    apply List.mem_append_right
    apply List.mem_map_of_mem
    apply List.mem_filter.2 ⟨homes_subset_places breakpoints c hp, _⟩
    simpa using hblocks
  · have hsection : (sectionAt breakpoints rules p).blocks = blocksAt breakpoints rules p := by
      rw [sectionAt]
      split <;> rfl
    rw [hsection]
    exact hblocks

theorem Common.declared?_sections (h : Common c rules) {o : Opening} {applied : List Section}
    (ha : applied.Sublist (sections o breakpoints rules)) (hne : ∃ s ∈ applied, s.blocks ≠ []) (property : String) :
    Cascade.declared? (applied.flatMap Section.lines) property = Cascade.declared? (linesOfRules rules) property := by
  by_cases hlines : linesOfRules rules = []
  · have hnil : applied.flatMap Section.lines = [] := by
      rw [List.flatMap_eq_nil_iff]
      intro s hs
      rcases h.lines_section (ha.subset hs) with hb | hl
      · rw [Section.lines, hb]
        rfl
      · rw [hl, hlines]
    rw [hnil, hlines]
  · apply Cascade.declared?_flatMap
    · intro s hs
      refine (h.lines_section (ha.subset hs)).imp_left fun hb => ?_
      rw [Section.lines, hb]
      rfl
    · obtain ⟨s, hs, hb⟩ := hne
      refine ⟨s, hs, ?_⟩
      rw [(h.lines_section (ha.subset hs)).resolve_left hb]
      exact hlines

end UtilityCss.Stylesheet
