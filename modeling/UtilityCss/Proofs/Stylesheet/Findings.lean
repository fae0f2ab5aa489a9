import UtilityCss.Proofs.Expansion.Collection
import UtilityCss.Proofs.Expansion.Origins
import UtilityCss.Proofs.Stylesheet.Rendering
import UtilityCss.Proofs.Stylesheet.Restriction
import UtilityCss.Proofs.Stylesheet.Selectors

namespace UtilityCss.Stylesheet

open Text

def Tame (s : String) : Prop :=
  Contained s.toList ∧ '\n' ∉ s.toList

instance (s : String) : Decidable (Tame s) :=
  inferInstanceAs (Decidable (_ ∧ _))

theorem Tame.append (s t : String) (hs : Tame s) (ht : Tame t) : Tame (s ++ t) := by
  rw [Tame, String.toList_append]
  exact ⟨hs.1.append ht.1, by simp [hs.2, ht.2]⟩

theorem Tame.of_plain {s : String} (h : Plain s.toList) : Tame s :=
  ⟨h.inert.contained, fun hm => h _ hm (List.mem_cons_self ..)⟩

theorem toList_line (property value : String) : (property ++ ": " ++ value ++ ";").toList =
    property.toList ++ [':', ' '] ++ value.toList ++ [';'] := by
  simp

theorem declarationOf_line (property value : String) :
    declarationOf (property ++ ": " ++ value ++ ";") = property.toList ++ [':', ' '] ++ value.toList := by
  rw [declarationOf, toList_line, List.dropLast_concat]

variable (breakpoints : Table String String) (rules : Table String (List Rule))

def TameRules : Prop :=
  ∀ e ∈ rules.entries, '\n' ∉ e.1.toList ∧ ∀ r ∈ e.2, r.Sound (.ofBreakpoints breakpoints) Tame

def around (p : Place) : List (List Char) :=
  if p = ⟨none, none⟩ then [] else [("@media " ++ query breakpoints p).toList]

def findings : List (String × Found) :=
  (⟨none, none⟩ :: mediaPlaces breakpoints).flatMap fun p =>
    rules.entries.flatMap fun e =>
      (standing p ((Rule.merge e.2).flatMap (blocksOf breakpoints e.1))).map fun b =>
        (e.1, b.found (around breakpoints p))

def laidAt (p : Place) : List Block :=
  if p = ⟨none, none⟩ then blocksAt breakpoints rules p else (blocksAt breakpoints rules p).map Block.shifted

def partAt (p : Place) : Part :=
  ⟨(around breakpoints p).head?.map trim, (laidAt breakpoints rules p).map Block.written⟩

def partsOf (opening : List Block) : List Part :=
  ⟨none, opening.map Block.written⟩ ::
    ((places (ordered breakpoints)).filter fun p => !(blocksAt breakpoints rules p).isEmpty).map
      (partAt breakpoints rules)

structure Legible : Prop where
  query : ∀ p, Contained ("@media " ++ query breakpoints p).toList
  block : ∀ p, ∀ b ∈ laidAt breakpoints rules p, b.Readable ∧ '\n' ∉ b.selector.toList

theorem findings_eq :
    findings breakpoints rules = (places (ordered breakpoints)).flatMap fun p =>
      (sourced breakpoints rules p).map fun b => (b.1, b.2.found (around breakpoints p)) := by
  rw [findings, places_ordered]
  apply List.flatMap_congr
  intro p _
  rw [sourced, List.map_flatMap]
  apply List.flatMap_congr
  intro e _
  rw [List.map_map]
  rfl

theorem findings_blocks :
    (findings breakpoints rules).map Prod.snd = (places (ordered breakpoints)).flatMap fun p =>
      (blocksAt breakpoints rules p).map (Block.found (around breakpoints p)) := by
  rw [findings_eq, List.map_flatMap]
  apply List.flatMap_congr
  intro p _
  rw [← sourced_blocks, List.map_map, List.map_map]
  rfl

theorem inert_query (hw : ∀ e ∈ breakpoints.entries, Inert e.2.toList) (p : Place) :
    Inert ("@media " ++ query breakpoints p).toList := by
  have hempty : Inert "".toList := by decide
  have hwidth (name : String) : Inert ((breakpoints.get? name).getD "").toList := by
    cases hg : breakpoints.get? name with
    | none => exact hempty
    | some w => exact hw _ ((breakpoints.get?_eq_some_iff name w).1 hg)
  have happend {a b : List Char} (ha : Inert a) (hb : Inert b) : Inert (a ++ b) :=
    List.forall_mem_append.2 ⟨ha, hb⟩
  have hscheme (m : Scheme) : Inert (schemeQuery m).toList := by cases m <;> decide
  have hname (name : String) : Inert (widthQuery breakpoints name).toList := by
    rw [widthQuery, String.toList_append, String.toList_append]
    exact happend (happend (by decide) (hwidth name)) (by decide)
  have hquery : Inert (query breakpoints p).toList := by
    rw [query]
    split
    · rw [String.toList_append, String.toList_append]
      exact happend (happend (hscheme _) (by decide)) (hname _)
    · exact hscheme _
    · exact hname _
    · exact hempty
  rw [String.toList_append]
  exact happend (by decide) hquery

variable {breakpoints rules}

theorem sound_resident (h : TameRules breakpoints rules) {p : Place} {token : String} {c : Context}
    (hk : (token, c) ∈ residents breakpoints rules p) :
    '\n' ∉ token.toList ∧ c.Known (.ofBreakpoints breakpoints) ∧
      ∀ line ∈ Rule.linesIn ((rules.get? token).getD []) c, Rule.Line Tame line := by
  obtain ⟨rs, hrs, r, hr, rfl⟩ := (mem_keyed rules).1 (List.mem_filter.1 hk).1
  obtain ⟨ht, hsound⟩ := h _ ((rules.get?_eq_some_iff token rs).1 hrs)
  refine ⟨ht, (hsound r hr).context, fun line hl => ?_⟩
  rw [hrs, Option.getD_some, Rule.linesIn, List.mem_flatMap] at hl
  obtain ⟨s, hs, hls⟩ := hl
  exact (hsound s (List.mem_filter.1 hs).1).lines line hls

structure OneRow (b : Block) : Prop where
  selector : '\n' ∉ b.selector.toList
  lines : ∀ line ∈ b.lines, '\n' ∉ line.toList

theorem readableLine {property value : String} (hp : Contained property.toList) (hv : Contained value.toList) :
    ReadableLine (property ++ ": " ++ value ++ ";") := by
  have hcolon : Contained [':', ' '] := by decide
  refine ⟨?_, ?_, ?_⟩
  · rw [toList_line, List.getLast?_concat]
  · rw [declarationOf_line]
    exact (hp.append hcolon).append hv
  · rw [declarationOf_line, List.all_append, List.all_append]
    simp [(by decide : isBlank ':' = false)]

theorem readable_blockAt (h : TameRules breakpoints rules) {p : Place} {k : String × Context}
    (hk : k ∈ residents breakpoints rules p) :
    (blockAt rules p k).Readable ∧ OneRow (blockAt rules p k) := by
  obtain ⟨token, c⟩ := k
  obtain ⟨ht, hc, hlines⟩ := sound_resident h hk
  have hfirm := Selector.firm_build hc.stated token
  have hrow := Selector.newline_not_mem_build hc.stated ht
  refine ⟨⟨?_, fun line hl => ?_⟩, ?_, fun line hl => ?_⟩
  · rw [selector_blockAt]
    split
    · exact (firm_toggled hfirm _).contained
    · exact hfirm.contained
  · obtain ⟨property, value, hp, hv, rfl⟩ := hlines line hl
    exact readableLine hp.1 hv.1
  · rw [selector_blockAt]
    split
    · exact newline_not_mem_toggled hrow _
    · exact hrow
  · obtain ⟨property, value, hp, hv, rfl⟩ := hlines line hl
    simp [hp.2, hv.2]

theorem laidAt_eq {p : Place} (h : ∀ b ∈ blocksAt breakpoints rules p, ∀ line ∈ b.lines, '\n' ∉ line.toList) :
    laidAt breakpoints rules p = blocksAt breakpoints rules p := by
  rw [laidAt]
  split
  · rfl
  · rw [List.map_congr_left fun b hb => Block.shifted_eq (h b hb), List.map_id']

theorem laidAt_isEmpty (p : Place) :
    (laidAt breakpoints rules p).isEmpty = (blocksAt breakpoints rules p).isEmpty := by
  rw [laidAt]
  split <;> simp

theorem found_partAt {p : Place} (h : ∀ b ∈ laidAt breakpoints rules p, b.Readable) :
    (partAt breakpoints rules p).found =
      (laidAt breakpoints rules p).map fun b => (b.found (around breakpoints p)).map trim := by
  have haround : ((around breakpoints p).head?.map trim).toList = (around breakpoints p).map trim := by
    rw [around]
    split <;> rfl
  rw [partAt, Part.found, haround, List.map_map]
  exact List.map_congr_left fun b hb => (h b hb).found_written _

namespace Legible

variable (h : Legible breakpoints rules)
include h

theorem renders_sectionAt {p : Place} (hp : blocksAt breakpoints rules p ≠ []) :
    Renders (sectionAt breakpoints rules p).text.toList (partAt breakpoints rules p).cuts := by
  have hblock := h.block p
  rw [sectionAt, partAt, around]
  rw [laidAt] at hblock ⊢
  split
  · rename_i hbase
    rw [if_pos hbase] at hblock
    exact cutting_base (fun b hb => (hblock b hb).1) fun b hb => (hblock b hb).2
  · rename_i hmedia
    rw [if_neg hmedia, List.forall_mem_map] at hblock
    exact cutting_media (h.query p) hp (fun b hb => (hblock b hb).1) fun b hb => (hblock b hb).2

theorem renders_emit {o : Opening} {opening : List Block}
    (ho : Cutting (o.sections.map Section.text) (opening.flatMap fun b => b.written.cuts)) :
    Renders (emit o breakpoints rules).toList ((partsOf breakpoints rules opening).flatMap Part.cuts) := by
  have hrules : Cutting ((ruleSections breakpoints (placed breakpoints rules)).map Section.text)
      (((places (ordered breakpoints)).filter fun p => !(blocksAt breakpoints rules p).isEmpty).flatMap
        fun p => (partAt breakpoints rules p).cuts) := by
    rw [ruleSections_eq, List.map_map]
    apply Cutting.map
    intro p hp
    apply h.renders_sectionAt
    simpa using (List.mem_filter.1 hp).2
  have hcutting : Cutting ((sections o breakpoints rules).map Section.text)
      ((partsOf breakpoints rules opening).flatMap Part.cuts) := by
    have hall := ho.append hrules
    rw [sections, List.map_append]
    simpa [partsOf, Part.cuts, List.flatMap_map] using hall
  have hall := (hcutting.joined (show Blanks "\n\n".toList by decide)).append
    (Renders.blanks (show Blanks "\n".toList by decide))
  rw [List.append_nil] at hall
  rwa [emit, render, String.toList_append]

omit h in
theorem partsOf_nonempty (opening : List Block) :
    ∀ p ∈ partsOf breakpoints rules opening, p.query.isSome → p.blocks ≠ [] := by
  intro p hp hq
  rcases List.mem_cons.1 hp with rfl | hp
  · cases hq
  · obtain ⟨q, hm, rfl⟩ := List.mem_map.1 hp
    have hne := (List.mem_filter.1 hm).2
    rw [← laidAt_isEmpty] at hne
    simpa [partAt] using hne

theorem found_partsOf {opening : List Block} (hb : ∀ b ∈ opening, b.Readable) :
    (partsOf breakpoints rules opening).flatMap Part.found =
      (opening.map (Block.found []) ++ (places (ordered breakpoints)).flatMap fun p =>
        (laidAt breakpoints rules p).map (Block.found (around breakpoints p))).map (Found.map trim) := by
  have hopening : Part.found ⟨none, opening.map Block.written⟩ =
      (opening.map (Block.found [])).map (Found.map trim) := by
    rw [Part.found, List.map_map, List.map_map]
    exact List.map_congr_left fun b hm => (hb b hm).found_written []
  rw [partsOf, List.flatMap_cons, hopening, List.flatMap_map, List.map_append, List.map_flatMap]
  congr 1
  induction places (ordered breakpoints) with
  | nil => rfl
  | cons p ps ih =>
    have hpart := found_partAt fun b hm => (h.block p b hm).1
    rw [List.filter_cons, List.flatMap_cons, ← ih, ← laidAt_isEmpty]
    cases hl : laidAt breakpoints rules p with
    | nil => simp
    | cons b bs =>
      rw [hl] at hpart
      simp [hpart]

theorem read_emit {o : Opening} {opening : List Block}
    (ho : Cutting (o.sections.map Section.text) (opening.flatMap fun b => b.written.cuts))
    (hb : ∀ b ∈ opening, b.Readable) :
    readTrimmed (emit o breakpoints rules).toList =
      (opening.map (Block.found []) ++ (places (ordered breakpoints)).flatMap fun p =>
        (laidAt breakpoints rules p).map (Block.found (around breakpoints p))).map (Found.map trim) := by
  rw [read_parts (h.renders_emit ho) (partsOf_nonempty opening), h.found_partsOf hb]

end Legible

theorem TameRules.legible (h : TameRules breakpoints rules) (hw : ∀ e ∈ breakpoints.entries, Inert e.2.toList) :
    Legible breakpoints rules ∧ ∀ p, laidAt breakpoints rules p = blocksAt breakpoints rules p := by
  have hblock : ∀ p, ∀ b ∈ blocksAt breakpoints rules p, b.Readable ∧ OneRow b := by
    intro p b hb
    obtain ⟨k, hk, rfl⟩ := List.mem_map.1 hb
    exact readable_blockAt h hk
  have hlaid : ∀ p, laidAt breakpoints rules p = blocksAt breakpoints rules p :=
    fun p => laidAt_eq fun b hb => (hblock p b hb).2.lines
  refine ⟨⟨fun p => (inert_query breakpoints hw p).contained, fun p b hb => ?_⟩, hlaid⟩
  rw [hlaid] at hb
  exact ⟨(hblock p b hb).1, (hblock p b hb).2.selector⟩

end UtilityCss.Stylesheet
