import UtilityCss.Proofs.Selector.Names
import UtilityCss.Proofs.Stylesheet.Calm
import UtilityCss.Proofs.Stylesheet.Opening
import UtilityCss.Proofs.Theme.Leaves

/-!
What a stylesheet means: its blocks in order, each with the media queries around it, its selector with class
names decoded, and its declarations, all without the blanks that mean nothing. Minifying a sheet of ordinary
rules leaves its meaning as it is.
-/

namespace UtilityCss

open Text Stylesheet

namespace Stylesheet

def separators : Spacing Char :=
  ⟨isBlank, fun c => c == ',' || c == ':', ' ', isBlank_space⟩

def separated (text : List Char) : List Char :=
  separators.squeeze true true text

def propertyAndValue (text : List Char) : List Char × List Char :=
  (cut? ':' (separated text)).getD (separated text, [])

/-- A block as it is understood. -/
structure Meaning where
  queries : List (List Char)
  selector : List Selector.Lexeme
  declarations : List (List Char × List Char)
  deriving DecidableEq

def Found.meaning (f : Found) : Meaning :=
  ⟨f.within.map separated, Selector.read f.head, f.declarations.map propertyAndValue⟩

def meanings (css : String) : List Meaning :=
  (readTrimmed css.toList).map Found.meaning

/-- A rule of a known state, its lines one calm declaration each, under an ordinary name. -/
structure Ordinary (token : String) (r : Rule) : Prop where
  named : token ≠ ""
  characters : ∀ c ∈ token.toList, Selector.isTokenChar c = true
  stated : Selector.Stated r.context
  lines : ∀ line ∈ r.lines, Rule.Line (fun s => Calm s.toList) line

structure Found.Settled (f : Found) : Prop where
  within : ∀ w ∈ f.within, Inert w
  head : Selector.Settles f.head
  declarations : ∀ d ∈ f.declarations, Inert d

structure Block.Settled (b : Block) : Prop where
  firm : Firm b.selector.toList
  selector : Selector.Settles b.selector.toList
  lines : ∀ line ∈ b.lines, CalmLine line

theorem separated_trim (text : List Char) : separated (trim text) = separated text :=
  squeeze_trim rfl text

theorem separated_squeezed {text : List Char} (h : Inert text) : separated (squeezed text) = separated text := by
  have hsame {t : List Char} (ht : Inert t) : separated t = squeezed t := by
    have hspace : separators.space = markup.space := rfl
    refine Spacing.squeeze_congr hspace (fun c hc => ⟨rfl, ?_⟩) true true
    have hnot := ht c hc
    simp only [marks, delimiters, List.cons_append, List.nil_append, List.mem_cons, not_or] at hnot
    obtain ⟨hopen, hclose, hsemicolon, _⟩ := hnot
    simp [separators, isMark, beq_false_of_ne hopen, beq_false_of_ne hclose, beq_false_of_ne hsemicolon,
      Bool.or_comm]
  rw [hsame (inert_squeezed h), hsame h]
  exact Spacing.squeeze_squeeze true true text

theorem Found.meaning_trim {f : Found} (h : f.Settled) : (f.map trim).meaning = f.meaning := by
  have hread : Selector.read (trim f.head) = Selector.read f.head :=
    congrArg (Selector.lexemes none) h.head.trimmed
  simp [Found.map, Found.meaning, Function.comp_def, separated_trim, propertyAndValue, hread]

theorem Found.meaning_squeezed {f : Found} (h : f.Settled) :
    ((f.map trim).map squeezed).meaning = f.meaning := by
  have hread : Selector.read (squeezed (trim f.head)) = Selector.read f.head := by
    rw [squeezed_trim]
    exact congrArg (Selector.lexemes none) h.head.squeezed
  have hwithin : f.within.map (fun w => separated (squeezed (trim w))) = f.within.map separated :=
    List.map_congr_left fun w hw => by rw [squeezed_trim, separated_squeezed (h.within w hw)]
  have hdeclarations : f.declarations.map (fun d => propertyAndValue (squeezed (trim d))) =
      f.declarations.map propertyAndValue :=
    List.map_congr_left fun d hd => by
      rw [propertyAndValue, squeezed_trim, separated_squeezed (h.declarations d hd), propertyAndValue]
  simp only [Found.map, Found.meaning, List.map_map, Function.comp_def, hread, hwithin, hdeclarations]

namespace Block.Settled

variable {b : Block} (h : b.Settled)
include h

theorem readable : b.Readable :=
  ⟨h.firm.contained, fun line hl => (h.lines line hl).readable⟩

theorem shifted : b.shifted.Settled :=
  ⟨h.firm, h.selector, List.forall_mem_map.2 fun line hl => (h.lines line hl).shifted.1⟩

theorem found {within : List (List Char)} (hw : ∀ w ∈ within, Inert w) : (b.found within).Settled :=
  ⟨hw, h.selector, List.forall_mem_map.2 fun line hl => (h.lines line hl).calm.inert⟩

theorem meaning_shifted (within : List (List Char)) : (b.shifted.found within).meaning = (b.found within).meaning := by
  have hlines : b.lines.map (fun line => propertyAndValue (declarationOf (Stylesheet.shifted line))) =
      b.lines.map fun line => propertyAndValue (declarationOf line) := by
    refine List.map_congr_left fun line hl => ?_
    have hline := (h.lines line hl).shifted.2 separators rfl
    rw [propertyAndValue, separated, hline]
    rfl
  simp [Found.meaning, Block.found, Block.shifted, Function.comp_def, hlines]

theorem steady : ∀ c ∈ b.written.cuts, c.Steady := by
  rw [Written.cuts, List.forall_mem_cons, List.forall_mem_append, List.forall_mem_singleton, List.forall_mem_map,
    Block.written, List.forall_mem_map]
  refine ⟨⟨Apart.trimmed h.selector.uncommented, ?_, ?_⟩, fun line hl => (h.lines line hl).calm.steady ';', steady_close⟩
  · rw [squeezed_trim]
    exact h.firm.contained_squeezed
  · have hmark : ['\x7b'].head? ≠ some '\x7d' := by decide
    rw [squeezed_trim]
    exact apart_append h.selector.unclosed (.singleton _) (.inl hmark)

end Block.Settled

variable {breakpoints : Table String String} {rules : Table String (List Rule)}

theorem calm_query (hw : ∀ e ∈ breakpoints.entries, Calm e.2.toList) (p : Place) :
    Calm ("@media " ++ query breakpoints p).toList := by
  have hwidth (name : String) : Calm ((breakpoints.get? name).getD "").toList := by
    cases hg : breakpoints.get? name with
    | none => exact calm_nil
    | some w => exact hw _ ((breakpoints.get?_eq_some_iff name w).1 hg)
  have hscheme (m : Scheme) : Calm (schemeQuery m).toList := by cases m <;> decide
  have hname (name : String) : Calm (widthQuery breakpoints name).toList := by
    rw [widthQuery, String.toList_append, String.toList_append]
    exact ((by decide : Calm "(min-width: ".toList).append (hwidth name) (.inr (by decide))).append (by decide)
      (.inl (by decide))
  have hquery : Calm (query breakpoints p).toList := by
    rw [query]
    split
    · rw [String.toList_append, String.toList_append]
      exact ((hscheme _).append (by decide : Calm " and ".toList) (.inl (by decide))).append (hname _)
        (.inr (by rw [List.getLast?_append_of_ne_nil _ (by decide)]; decide))
    · exact hscheme _
    · exact hname _
    · exact calm_nil
  rw [String.toList_append]
  exact (by decide : Calm "@media ".toList).append hquery (.inr (by decide))

theorem settled_blockAt (h : ∀ e ∈ rules.entries, ∀ r ∈ e.2, Ordinary e.1 r) {p : Place} {b : Block}
    (hb : b ∈ blocksAt breakpoints rules p) : b.Settled ∧ '\n' ∉ b.selector.toList := by
  obtain ⟨⟨token, c⟩, hk, rfl⟩ := List.mem_map.1 hb
  obtain ⟨rs, hrs, r, hr, rfl⟩ := (mem_keyed rules).1 (List.mem_filter.1 hk).1
  have hordinary := h _ ((rules.get?_eq_some_iff token rs).1 hrs)
  have hr := hordinary r hr
  have hnewline : '\n' ∉ token.toList := fun hm => by
    have hc := hr.characters '\n' hm
    revert hc
    decide
  have hsettles := Selector.settles_build hr.stated hr.characters hr.named
  have hfirm := Selector.firm_build hr.stated token
  have hrow := Selector.newline_not_mem_build hr.stated hnewline
  have hlines : ∀ line ∈ (blockAt rules p (token, r.context)).lines, CalmLine line := by
    intro line hl
    rw [blockAt, hrs, Option.getD_some, Rule.linesIn, List.mem_flatMap] at hl
    obtain ⟨s, hs, hls⟩ := hl
    obtain ⟨property, value, hp, hv, rfl⟩ := (hordinary s (List.mem_filter.1 hs).1).lines line hls
    exact calmLine hp hv
  have hselector := selector_blockAt rules p (token, r.context)
  cases ht : toggleAt p r.context with
  | none =>
    rw [ht] at hselector
    exact ⟨⟨hselector ▸ hfirm, hselector ▸ hsettles.1, hlines⟩, hselector ▸ hrow⟩
  | some m =>
    rw [ht] at hselector
    exact ⟨⟨hselector ▸ firm_toggled hfirm m, hselector ▸ hsettles.2 m, hlines⟩,
      hselector ▸ newline_not_mem_toggled hrow m⟩

theorem name_mem_finding (h : ∀ e ∈ rules.entries, ∀ r ∈ e.2, Ordinary e.1 r) :
    ∀ f ∈ findings breakpoints rules, .name f.1.toList ∈ f.2.meaning.selector := by
  intro f hf
  obtain ⟨p, _, hf⟩ := List.mem_flatMap.1 hf
  obtain ⟨e, he, hf⟩ := List.mem_flatMap.1 hf
  obtain ⟨b, hb, rfl⟩ := List.mem_map.1 hf
  obtain ⟨⟨q, b⟩, hq, rfl⟩ := List.mem_map.1 hb
  obtain ⟨r, hr, hb⟩ := List.mem_flatMap.1 (List.mem_filter.1 hq).1
  rw [Rule.merge_eq] at hr
  obtain ⟨c, hc, rfl⟩ := List.mem_map.1 hr
  obtain ⟨s, hs, rfl⟩ := Rule.mem_contexts.1 hc
  have hordinary := h e he s hs
  obtain ⟨hbare, htoggled⟩ := Selector.name_mem_read hordinary.stated hordinary.characters hordinary.named
  rw [blocksOf] at hb
  dsimp only at hb
  split at hb
  · obtain ⟨rfl, rfl⟩ := Prod.mk.inj (List.mem_singleton.1 hb)
    exact hbare
  · rename_i m _
    rcases List.mem_cons.1 hb with hb | hb
    · obtain ⟨rfl, rfl⟩ := Prod.mk.inj hb
      exact htoggled m
    · obtain ⟨rfl, rfl⟩ := Prod.mk.inj (List.mem_singleton.1 hb)
      exact hbare

section Sheet

variable (hw : ∀ e ∈ breakpoints.entries, Calm e.2.toList) (h : ∀ e ∈ rules.entries, ∀ r ∈ e.2, Ordinary e.1 r)

include h in
theorem settled_laidAt {p : Place} {b : Block} (hb : b ∈ laidAt breakpoints rules p) :
    b.Settled ∧ '\n' ∉ b.selector.toList := by
  rw [laidAt] at hb
  split at hb
  · exact settled_blockAt h hb
  · obtain ⟨a, ha, rfl⟩ := List.mem_map.1 hb
    obtain ⟨hsettled, hrow⟩ := settled_blockAt h ha
    exact ⟨hsettled.shifted, hrow⟩

include h in
theorem meaning_laidAt (p : Place) (within : List (List Char)) :
    ((laidAt breakpoints rules p).map (Block.found within)).map Found.meaning =
      ((blocksAt breakpoints rules p).map (Block.found within)).map Found.meaning := by
  rw [laidAt]
  split
  · rfl
  · rw [List.map_map, List.map_map, List.map_map]
    exact List.map_congr_left fun b hb => (settled_blockAt h hb).1.meaning_shifted within

include hw in
theorem calm_around (p : Place) : ∀ w ∈ around breakpoints p, Calm w := by
  rw [around]
  split
  · exact List.forall_mem_nil _
  · exact List.forall_mem_singleton.2 (calm_query hw p)

include hw h

theorem legible_of_ordinary : Legible breakpoints rules where
  query p := (calm_query hw p).inert.contained
  block _ _ hb := ⟨(settled_laidAt h hb).1.readable, (settled_laidAt h hb).2⟩

theorem steady_partAt (p : Place) : ∀ c ∈ (partAt breakpoints rules p).cuts, c.Steady := by
  have hblocks : ∀ c ∈ ((laidAt breakpoints rules p).map Block.written).flatMap Written.cuts, c.Steady := by
    rw [List.forall_mem_flatMap, List.forall_mem_map]
    exact fun b hb => (settled_laidAt h hb).1.steady
  have haround := calm_around hw p
  rw [partAt, Part.cuts]
  cases hhead : (around breakpoints p).head? with
  | none => exact hblocks
  | some w =>
    have hquery := (haround w (List.mem_of_head? hhead)).steady '\x7b'
    exact List.forall_mem_cons.2 ⟨hquery, List.forall_mem_append.2 ⟨hblocks, List.forall_mem_singleton.2 steady_close⟩⟩

variable {o : Opening} {opening : List Block} (hb : ∀ b ∈ opening, b.Settled)
include hb

theorem steady_partsOf : ∀ c ∈ (partsOf breakpoints rules opening).flatMap Part.cuts, c.Steady := by
  rw [partsOf, List.forall_mem_flatMap, List.forall_mem_cons, List.forall_mem_map]
  refine ⟨?_, fun p _ => steady_partAt hw h p⟩
  rw [Part.cuts, List.forall_mem_flatMap, List.forall_mem_map]
  exact fun b hm => (hb b hm).steady

theorem settled_found : ∀ f ∈ opening.map (Block.found []) ++ (places (ordered breakpoints)).flatMap fun p =>
    (laidAt breakpoints rules p).map (Block.found (around breakpoints p)), f.Settled := by
  rw [List.forall_mem_append, List.forall_mem_map, List.forall_mem_flatMap]
  refine ⟨fun b hm => (hb b hm).found nofun, fun p _ => ?_⟩
  rw [List.forall_mem_map]
  exact fun b hm => (settled_laidAt h hm).1.found fun w hm => (calm_around hw p w hm).inert

theorem meanings_emit (ho : Cutting (o.sections.map Section.text) (opening.flatMap fun b => b.written.cuts)) :
    meanings (minify (emit o breakpoints rules)) = meanings (emit o breakpoints rules) ∧
      meanings (emit o breakpoints rules) =
        (opening.map (Block.found []) ++ (findings breakpoints rules).map Prod.snd).map Found.meaning := by
  have hlegible := legible_of_ordinary hw h
  have hsettled := settled_found hw h hb
  have hread := hlegible.read_emit ho fun b hm => (hb b hm).readable
  have hminified := read_minified (hlegible.renders_emit ho) (steady_partsOf hw h hb)
  have hminify : (minify (emit o breakpoints rules)).toList = minifyChars (emit o breakpoints rules).toList := by
    rw [minify, String.toList_ofList]
  have hlaid : meanings (emit o breakpoints rules) = (opening.map (Block.found []) ++
      (places (ordered breakpoints)).flatMap fun p =>
        (laidAt breakpoints rules p).map (Block.found (around breakpoints p))).map Found.meaning := by
    rw [meanings, hread, List.map_map]
    exact List.map_congr_left fun f hf => Found.meaning_trim (hsettled f hf)
  refine ⟨?_, ?_⟩
  · rw [hlaid, meanings, hminify, hminified, hread, List.map_map, List.map_map]
    exact List.map_congr_left fun f hf => Found.meaning_squeezed (hsettled f hf)
  · rw [hlaid, findings_blocks, List.map_append, List.map_append, List.map_flatMap, List.map_flatMap]
    congr 1
    exact List.flatMap_congr fun p _ => meaning_laidAt h p _

end Sheet

section Opening

open Config

theorem settled_blockOf {selector : String} {ds : List (String × String)} (hf : Firm selector.toList)
    (hs : Selector.Settles selector.toList) (hd : ∀ d ∈ ds, Calm d.1.toList ∧ Calm d.2.toList) :
    (blockOf selector ds).Settled :=
  ⟨hf, hs, List.forall_mem_map.2 fun d hm => calmLine (hd d hm).1 (hd d hm).2⟩

instance (text : List Char) : Decidable (Selector.Settles text) :=
  decidable_of_iff (Selector.spaced (trim text) = Selector.spaced text ∧
    Selector.spaced (squeezed text) = Selector.spaced text ∧ Apart '/' '*' text ∧ Apart ';' '\x7d' (squeezed text))
    ⟨fun h => ⟨h.1, h.2.1, h.2.2.1, h.2.2.2⟩, fun h => ⟨h.trimmed, h.squeezed, h.uncommented, h.unclosed⟩⟩

instance (text : List Char) : Decidable (Firm text) :=
  decidable_of_iff (Contained text ∧ Clear .bare text) ⟨fun h => ⟨h.1, h.2⟩, fun h => ⟨h.contained, h.clear⟩⟩

theorem settled_preflight : ∀ r ∈ preflightRules, (blockOf r.1 r.2).Settled := by
  have hall : ∀ r ∈ preflightRules, Firm r.1.toList ∧ Selector.Settles r.1.toList ∧
      ∀ d ∈ r.2, Calm d.1.toList ∧ Calm d.2.toList := by
    decide +kernel
  exact fun r hr => settled_blockOf (hall r hr).1 (hall r hr).2.1 (hall r hr).2.2

theorem settled_leadingBlocks {properties : Option (List (String × String))}
    (h : ∀ ds ∈ properties, ∀ d ∈ ds, Calm d.1.toList ∧ Calm d.2.toList) (preflight : Bool) :
    ∀ b ∈ leadingBlocks properties preflight, b.Settled := by
  rw [leadingBlocks, List.forall_mem_append]
  refine ⟨?_, ?_⟩
  · cases properties with
    | none => exact List.forall_mem_nil _
    | some ds => exact List.forall_mem_singleton.2 (settled_blockOf (by decide) (by decide) (h ds rfl))
  · split
    · exact List.forall_mem_map.2 settled_preflight
    · exact List.forall_mem_nil _

end Opening

/-- Minifying a sheet of ordinary rules keeps what it means: the same blocks in the same order, in the same
media queries, for the same class names in the same states, and with the same declarations. These are the
blocks that the sheet is written from, each for the class that it was made for. -/
theorem minify_keeps_meaning {theme : Option Theme} (ht : ∀ t ∈ theme, ∀ d ∈ t.properties, Calm d.2.toList)
    (preflight : Bool) (hw : ∀ e ∈ breakpoints.entries, Calm e.2.toList)
    (h : ∀ e ∈ rules.entries, ∀ r ∈ e.2, Ordinary e.1 r) :
    let properties := theme.map Theme.properties
    let css := emit (Config.openingOf properties preflight) breakpoints rules
    meanings (minify css) = meanings css ∧
      meanings css = ((Config.leadingBlocks properties preflight).map (Block.found []) ++
        (findings breakpoints rules).map Prod.snd).map Found.meaning ∧
      ∀ f ∈ findings breakpoints rules, .name f.1.toList ∈ f.2.meaning.selector := by
  have hproperties : ∀ ds ∈ theme.map Theme.properties, ∀ d ∈ ds, Calm d.1.toList ∧ Calm d.2.toList := by
    intro ds hds d hd
    obtain ⟨t, htheme, rfl⟩ := Option.mem_map.1 hds
    exact ⟨calm_property t d hd, ht t htheme d hd⟩
  have hsettled := settled_leadingBlocks hproperties preflight
  have hroot : ∀ ds ∈ theme.map Theme.properties, (Config.blockOf ":root" ds).Readable := by
    intro ds hds
    apply Block.Settled.readable
    apply hsettled
    simp [Config.leadingBlocks, Option.mem_def.1 hds]
  obtain ⟨hminified, hwritten⟩ := meanings_emit hw h hsettled (Config.cutting_openingOf hroot)
  exact ⟨hminified, hwritten, name_mem_finding h⟩

def shelfTheme : Theme :=
  { Theme.empty with colors := .ofList [("brand dark", .flat "rgb(1,  2, 3)")] }

def shelfWidths : Table String String :=
  .ofList [("wide", "64em"), ("tall", "64px")]

def shelfDeclarations : List (List (String × String)) :=
  [[("color", "red"), ("margin", "1px ,\n 2px")], [("--gap", " a/b * c")], []]

def shelfRules : Table String (List Rule) := .ofList [
  ("1", [⟨["color: red;", "margin: 1px ,\n 2px;"], ⟨none, none, none, some "& > * + *"⟩⟩]),
  ("-2:\x7ba;b\x7d", [⟨["--gap:  a/b * c;"], ⟨some "wide", some "dark", some "hover", none⟩⟩,
    ⟨[], ⟨none, none, none, none⟩⟩]),
  ("w-1/*,", [⟨["color: red;", "margin: 1px ,\n 2px;"], ⟨some "tall", none, some "group-hover", none⟩⟩])]

theorem minify_keeps_meaning_shelf :
    (∀ t ∈ some shelfTheme, ∀ d ∈ t.properties, Calm d.2.toList) ∧ (∀ e ∈ shelfWidths.entries, Calm e.2.toList) ∧
      (∀ e ∈ shelfRules.entries, ∀ r ∈ e.2, Ordinary e.1 r) ∧
      blocksAt shelfWidths shelfRules ⟨some .dark, some "wide"⟩ =
        [⟨".-\\32 \\:\\\x7ba\\;b\\\x7d:hover", ["--gap:  a/b * c;"]⟩] ∧
      ∃ css, css = emit (Config.openingOf (some shelfTheme.properties) true) shelfWidths shelfRules ∧
        meanings (minify css) = meanings css := by
  have htheme : ∀ t ∈ some shelfTheme, ∀ d ∈ t.properties, Calm d.2.toList := by decide +kernel
  have hwidths : ∀ e ∈ shelfWidths.entries, Calm e.2.toList := by decide +kernel
  have hrules : ∀ e ∈ shelfRules.entries, ∀ r ∈ e.2, Ordinary e.1 r := by
    have hall : ∀ e ∈ shelfRules.entries, ∀ r ∈ e.2, e.1 ≠ "" ∧
        (∀ c ∈ e.1.toList, Selector.isTokenChar c = true) ∧ Selector.Stated r.context ∧
        ∃ ds ∈ shelfDeclarations, r.lines = Rule.linesOf ds ∧ ∀ d ∈ ds, Calm d.1.toList ∧ Calm d.2.toList := by
      decide +kernel
    intro e he r hr
    obtain ⟨hne, htoken, hstated, ds, _, hlines, hcalm⟩ := hall e he r hr
    refine ⟨hne, htoken, hstated, ?_⟩
    rw [hlines]
    exact List.forall_mem_map.2 fun d hd => ⟨d.1, d.2, (hcalm d hd).1, (hcalm d hd).2, rfl⟩
  exact ⟨htheme, hwidths, hrules, by decide +kernel, _, rfl, (minify_keeps_meaning htheme true hwidths hrules).1⟩

end Stylesheet

end UtilityCss
