import UtilityCss.Proofs.Stylesheet.Calm
import UtilityCss.Proofs.Stylesheet.Findings

namespace UtilityCss.Config

open Text Stylesheet

variable {c : Config}

def preflightRules : List (String × List (String × String)) := [
  ("*, ::before, ::after", [("box-sizing", "border-box"), ("border-width", "0"), ("border-style", "solid"),
    ("border-color", "#e5e7eb")]),
  ("html", [("line-height", "1.5"), ("-webkit-text-size-adjust", "100%"),
    ("font-family", "Inter, ui-sans-serif, system-ui, sans-serif")]),
  ("body", [("margin", "0"), ("line-height", "inherit")]),
  ("img", [("display", "block"), ("max-width", "100%"), ("height", "auto")]),
  ("button", [("cursor", "pointer"), ("background", "transparent"), ("padding", "0"), ("color", "inherit"),
    ("font", "inherit")])]

def blockOf (selector : String) (ds : List (String × String)) : Block :=
  ⟨selector, Rule.linesOf ds⟩

def openingOf (properties : Option (List (String × String))) (preflight : Bool) : Opening :=
  ⟨properties, if preflight then some preflightText else none⟩

def leadingBlocks (properties : Option (List (String × String))) (preflight : Bool) : List Block :=
  (properties.map (blockOf ":root")).toList ++
    if preflight then preflightRules.map fun r => blockOf r.1 r.2 else []

def openingBlocks (c : Config) : List Block :=
  leadingBlocks (some c.mergedTheme.properties) c.preflight

theorem preflightText_eq : preflightText = String.join (preflightRules.map fun r => lineRule r.1 r.2) := rfl

theorem readable_blockOf {selector : String} {ds : List (String × String)} (hs : Inert selector.toList)
    (hd : ∀ d ∈ ds, Contained d.1.toList ∧ Contained d.2.toList) : (blockOf selector ds).Readable := by
  refine ⟨hs.contained, fun line hl => ?_⟩
  obtain ⟨d, hm, rfl⟩ := List.mem_map.1 hl
  exact readableLine (hd d hm).1 (hd d hm).2

theorem renders_lineRule {selector : String} {ds : List (String × String)}
    (h : (blockOf selector ds).Readable) :
    Renders (lineRule selector ds).toList (blockOf selector ds).written.cuts := by
  have hblank : Renders " ".toList [] := Renders.blanks (by decide)
  have hnewline : Renders "\n".toList [] := Renders.blanks (by decide)
  have hlines : Renders (" ".intercalate (Rule.linesOf ds)).toList
      ((Rule.linesOf ds).map fun line => ⟨trim (declarationOf line), ';'⟩) := by
    have hsame : (Rule.linesOf ds).map ("" ++ ·) = Rule.linesOf ds := by simp
    have hcutting := cutting_lines h.lines (show Blanks "".toList from nofun)
    rw [blockOf, hsame] at hcutting
    exact hcutting.joined (by decide)
  have hall := ((renders_open h.selector).append hblank).append
    ((hlines.append hblank).append (renders_close.append hnewline))
  have htext : (lineRule selector ds).toList = (selector ++ " \x7b").toList ++ " ".toList ++
      ((" ".intercalate (Rule.linesOf ds)).toList ++ " ".toList ++ ("\x7d".toList ++ "\n".toList)) := by
    simp [lineRule]
  rw [htext]
  simpa [Written.cuts, Block.written, blockOf, Function.comp_def] using hall

theorem renders_root {properties : List (String × String)} (h : (blockOf ":root" properties).Readable) :
    Renders (rootText properties).toList (blockOf ":root" properties).written.cuts := by
  have hall := (Cutting.single (renders_open h.selector)).append
    ((cutting_lines h.lines (show Blanks indent.toList by decide)).append (Cutting.single renders_close))
  rw [rootText_eq, rootRows_eq, ← List.singleton_append]
  simpa [Written.cuts, Block.written, blockOf, Function.comp_def] using hall.unlined

theorem calm_standard : ∀ d ∈ Theme.standard.properties, Calm d.2.toList := by
  decide +kernel

theorem contained_properties :
    ∀ d ∈ Theme.standard.properties, Contained d.1.toList ∧ Contained d.2.toList :=
  fun d hd => ⟨(calm_property _ d hd).inert.contained, (calm_standard d hd).inert.contained⟩

theorem readable_preflight : ∀ r ∈ preflightRules, (blockOf r.1 r.2).Readable := by
  have h : ∀ r ∈ preflightRules, Inert r.1.toList ∧
      ∀ d ∈ r.2, Contained d.1.toList ∧ Contained d.2.toList := by
    decide +kernel
  exact fun r hr => readable_blockOf (h r hr).1 (h r hr).2

theorem renders_preflight :
    Renders preflightText.toList (preflightRules.flatMap fun r => (blockOf r.1 r.2).written.cuts) := by
  rw [preflightText_eq]
  exact (Cutting.map fun r hr => renders_lineRule (readable_preflight r hr)).concat

theorem preflightText_ne : preflightText.isEmpty = false := by
  rw [String.isEmpty_eq_false_iff, preflightText_eq, ← String.toList_inj.ne, String.toList_join]
  simp [preflightRules, lineRule]

variable {properties : Option (List (String × String))} {preflight : Bool}

theorem readable_leadingBlocks (h : ∀ ds ∈ properties, (blockOf ":root" ds).Readable) :
    ∀ b ∈ leadingBlocks properties preflight, b.Readable := by
  rw [leadingBlocks, List.forall_mem_append]
  refine ⟨?_, ?_⟩
  · cases properties with
    | none => exact nofun
    | some ds => exact List.forall_mem_singleton.2 (h ds rfl)
  · split
    · exact List.forall_mem_map.2 readable_preflight
    · exact nofun

theorem cutting_openingOf (h : ∀ ds ∈ properties, (blockOf ":root" ds).Readable) :
    Cutting ((openingOf properties preflight).sections.map Section.text)
      ((leadingBlocks properties preflight).flatMap fun b => b.written.cuts) := by
  have hroot : Cutting ((properties.map Section.root).toList.map Section.text)
      ((properties.map (blockOf ":root")).toList.flatMap fun b => b.written.cuts) := by
    cases properties with
    | none => exact .nil
    | some ds =>
      rw [Option.map_some, Option.map_some, Option.toList_some, Option.toList_some, List.flatMap_singleton]
      exact .single (renders_root (h ds rfl))
  have hpreamble : (openingOf properties preflight).preamble.filter (!·.isEmpty) =
      if preflight then some preflightText else none := by
    rw [openingOf]
    split <;> simp [preflightText_ne]
  rw [Opening.sections, hpreamble, leadingBlocks, List.map_append, List.flatMap_append]
  refine hroot.append ?_
  split
  · have hverbatim : (Section.verbatim (trimmed preflightText)).text.toList = trim preflightText.toList := by
      rw [Section.text, trimmed, String.toList_ofList]
    have hpreflight := renders_preflight.trimmed
    rw [← hverbatim] at hpreflight
    have hsingle := Cutting.single hpreflight
    simpa [List.flatMap_map] using hsingle
  · exact .nil

theorem readable_root (ht : c.mergedTheme = .standard) :
    ∀ ds ∈ some c.mergedTheme.properties, (blockOf ":root" ds).Readable := by
  rintro ds ⟨⟩
  rw [ht]
  exact readable_blockOf (by decide) contained_properties

theorem readable_openingBlocks (ht : c.mergedTheme = .standard) : ∀ b ∈ c.openingBlocks, b.Readable :=
  readable_leadingBlocks (readable_root ht)

theorem cutting_opening (ht : c.mergedTheme = .standard) :
    Cutting (c.opening.sections.map Section.text) (c.openingBlocks.flatMap fun b => b.written.cuts) :=
  cutting_openingOf (readable_root ht)

end UtilityCss.Config
