import UtilityCss.Proofs.Expansion.Characters
import UtilityCss.Proofs.Stylesheet.Opening

/-!
One class and the sheet around it. With the built-in theme only the literals in brackets bring text of a
class into the values; if each of them is a stretch that leaves no quotes open, the sheet is read as it was
written, and a further class adds its own blocks and changes no others. A literal with a brace of its own
takes the blocks behind it along.
-/

namespace UtilityCss

open Text Outcome Stylesheet

namespace Stylesheet

variable (breakpoints : Table String String) {rules rules' : Table String (List Rule)} {token : String}

def AgreeBut (token : String) (rules rules' : Table String (List Rule)) : Prop :=
  rules'.entries.filter (fun e => e.1 ≠ token) = rules.entries.filter fun e => e.1 ≠ token

theorem findings_filter (h : AgreeBut token rules rules') :
    (findings breakpoints rules').filter (fun f => f.1 ≠ token) =
      (findings breakpoints rules).filter fun f => f.1 ≠ token := by
  rw [findings_eq, findings_eq, List.filter_flatMap, List.filter_flatMap]
  apply List.flatMap_congr
  intro p _
  have hp := filter_sourced breakpoints (fun x => x ≠ token) (fun x => x ≠ token) h p
  rw [List.filter_map, List.filter_map]
  exact congrArg _ hp

end Stylesheet

namespace Config

variable {c : Config}

/-- A class of one row whose literals leave no quotes open and do not cut the text. -/
structure Tidy (c : Config) (token : String) : Prop where
  row : '\n' ∉ token.toList
  literals : ∀ family key, c.resolver.Reads [] token family key →
    ∀ v ∈ family.literals key, Contained v.toList

theorem tidy_of_own {token : String} (hn : c.resolver.presetClasses? (c.resolver.baseOf token) = none)
    (hrow : '\n' ∉ token.toList) (h : ∀ v ∈ c.resolver.ownLiterals token, Contained v.toList) : c.Tidy token := by
  refine ⟨hrow, fun family key hread => ?_⟩
  rw [hread.literals hn]
  exact h

def plainEntry : Entry → Prop
  | .declaration d => ∀ p ∈ d.pairs.toOption.getD [], Plain p.1.toList ∧ Plain p.2.toList
  | _ => True

instance : DecidablePred plainEntry
  | .declaration d => inferInstanceAs (Decidable (∀ p ∈ d.pairs.toOption.getD [], Plain p.1.toList ∧ Plain p.2.toList))
  | .group _ | .preset _ => inferInstanceAs (Decidable True)

theorem closed_tame (ht : c.mergedTheme = .standard) : c.resolver.Closed Tame where
  append := Tame.append
  plain _ h := .of_plain h
  variants := (Resolver.closed_of_standard rfl).variants
  declarations name d hd pairs hp := by
    have hentries : ∀ e ∈ Entry.standard.entries, plainEntry e.2 := Table.forall_ofList (by decide +kernel)
    have hplain := hentries _ ((Table.get?_eq_some_iff _ _ _).1 hd)
    rw [plainEntry, hp] at hplain
    exact fun p hm => ⟨.of_plain (hplain p hm).1, .of_plain (hplain p hm).2⟩
  families name family hf := by
    have hregistry : ∀ e ∈ Registry.standard.entries, ∀ t ∈ e.2.texts (.ofTheme .standard), Plain t.toList := by
      rw [Registry.standard_eq_listed]
      decide +kernel
    have hsurroundings : c.resolver.surroundings = .ofTheme .standard := congrArg Surroundings.ofTheme ht
    rw [hsurroundings]
    exact fun t htext => .of_plain (hregistry _ ((Table.get?_eq_some_iff _ _ _).1 hf) t htext)

theorem tameRules (ht : c.mergedTheme = .standard) {classes : List String} (hc : ∀ token ∈ classes, c.Tidy token)
    {banner : Bool} {g : Generation} (hg : c.generate classes banner = .ok g) :
    TameRules Vocabulary.breakpoints g.resolved := by
  rintro ⟨token, rules⟩ he
  obtain ⟨hm, hr, _⟩ := (mem_resolved hg).1 he
  refine ⟨(hc token hm).row, Resolver.sound_resolve (closed_tame ht) [] token ?_ rules hr⟩
  intro family key hread
  have hkey := hread.newline_not_mem_key (hc token hm).row
  refine ⟨fun hi => ⟨hi.contained, hkey⟩, fun v hv => ⟨?_, ?_⟩⟩
  · exact (hc token hm).literals family key hread v hv
  · exact Family.newline_not_mem_literals hv hkey

theorem agree_generate {classes : List String} {token : String} {banner : Bool} {g g' : Generation}
    (hg : c.generate classes banner = .ok g) (hg' : c.generate (token :: classes) banner = .ok g') :
    AgreeBut token g.resolved g'.resolved := by
  have hentries {classes : List String} {g : Generation} (hg : c.generate classes banner = .ok g) :
      g.resolved.entries.filter (fun e => e.1 ≠ token) = c.resolver.entriesOf
        ((Resolver.sorted (Resolver.sorted classes)).filter fun x => x ≠ token) := by
    rw [c.resolver.entries_resolveAll (generate_eq_ok hg).1, Resolver.entriesOf, Resolver.entriesOf,
      List.filter_map, List.filter_comm]
    rfl
  rw [AgreeBut, hentries hg, hentries hg', Resolver.sorted_filter_eq]
  intro x hx
  have hne : x ≠ token := of_decide_eq_true hx
  rw [Resolver.mem_sorted, Resolver.mem_sorted, List.mem_cons, or_iff_right hne]

def written (c : Config) (rules : Table String (List Rule)) : List Found :=
  c.openingBlocks.map (Block.found []) ++ (findings Vocabulary.breakpoints rules).map Prod.snd

def ReadsBack (c : Config) (banner : Bool) (g : Generation) : Prop :=
  ∃ body, g.css = c.bannered banner body ∧
    readTrimmed body.toList = (c.written g.resolved).map (Found.map trim)

theorem read_emit (ht : c.mergedTheme = .standard) {rules : Table String (List Rule)}
    (h : TameRules Vocabulary.breakpoints rules) :
    readTrimmed (emit c.opening Vocabulary.breakpoints rules).toList = (c.written rules).map (Found.map trim) := by
  obtain ⟨hlegible, hlaid⟩ := h.legible (by decide)
  rw [hlegible.read_emit (cutting_opening ht) (readable_openingBlocks ht), written, findings_blocks]
  simp only [hlaid]

theorem readsBack (ht : c.mergedTheme = .standard) {classes : List String} (hc : ∀ token ∈ classes, c.Tidy token)
    {banner : Bool} {g : Generation} (hg : c.generate classes banner = .ok g) : c.ReadsBack banner g :=
  ⟨_, (generate_eq_ok hg).2, read_emit ht (tameRules ht hc hg)⟩

/-- If the literals of all classes leave no quotes open, do not end in a backslash, and have their braces and
semicolons escaped or inside quotes, then the sheet is read as the blocks it is written from; and another
such class has blocks of its own there, while those of all other classes are the same. -/
theorem generate_reads_back {c : Config} (ht : c.mergedTheme = .standard) {classes : List String}
    (hc : ∀ token ∈ classes, c.Tidy token) {banner : Bool} {g : Generation}
    (hg : c.generate classes banner = .ok g) :
    c.ReadsBack banner g ∧
      ∀ token, c.Tidy token → ∀ g', c.generate (token :: classes) banner = .ok g' →
        c.ReadsBack banner g' ∧
          (findings Vocabulary.breakpoints g'.resolved).filter (fun f => f.1 ≠ token) =
            (findings Vocabulary.breakpoints g.resolved).filter fun f => f.1 ≠ token := by
  refine ⟨readsBack ht hc hg, fun token htoken g' hg' => ⟨?_, ?_⟩⟩
  · exact readsBack ht (List.forall_mem_cons.2 ⟨htoken, hc⟩) hg'
  · exact findings_filter Vocabulary.breakpoints (agree_generate hg hg')

def paneClasses : List String :=
  ["m-[4px]", "md:dark:p-[var(--a\\;b)]", "z-1"]

def layerFound : Found :=
  ⟨[], ".z-1".toList, ["z-index: 1".toList]⟩

theorem generate_reads_back_pane :
    (∀ token ∈ "w-[calc('\x7b')]" :: paneClasses, standard.Tidy token) ∧
      ∃ g g', standard.generate paneClasses true = .ok g ∧
        standard.generate ("w-[calc('\x7b')]" :: paneClasses) true = .ok g' ∧
        standard.ReadsBack true g ∧ standard.ReadsBack true g' ∧
        ("z-1", layerFound) ∈ findings Vocabulary.breakpoints g'.resolved ∧
        (findings Vocabulary.breakpoints g'.resolved).filter (fun f => f.1 ≠ "w-[calc('\x7b')]") =
          (findings Vocabulary.breakpoints g.resolved).filter fun f => f.1 ≠ "w-[calc('\x7b')]" := by
  have hplain : ∀ token ∈ "w-[calc('\x7b')]" :: paneClasses,
      standard.resolver.presetClasses? (standard.resolver.baseOf token) = none ∧
        (standard.resolver.plainRules token).isOk = true := by
    rw [Config.resolver_eq_listed]
    decide +kernel
  have hliterals : ∀ token ∈ "w-[calc('\x7b')]" :: paneClasses, '\n' ∉ token.toList ∧
      ∀ v ∈ standard.resolver.ownLiterals token, Contained v.toList := by
    rw [Config.resolver_eq_listed]
    decide +kernel
  have htidy : ∀ token ∈ "w-[calc('\x7b')]" :: paneClasses, standard.Tidy token := fun token ht =>
    tidy_of_own (hplain token ht).1 (hliterals token ht).1 (hliterals token ht).2
  obtain ⟨htoken, hclasses⟩ := List.forall_mem_cons.1 htidy
  obtain ⟨g, hg⟩ := generates_of_plain (List.forall_mem_cons.1 hplain).2 true
  obtain ⟨g', hg'⟩ := generates_of_plain hplain true
  have htheme : standard.mergedTheme = .standard := rfl
  obtain ⟨hread, hothers⟩ := generate_reads_back htheme hclasses hg
  obtain ⟨hread', hsame⟩ := hothers _ htoken g' hg'
  refine ⟨htidy, g, g', hg, hg', hread, hread', ?_, hsame⟩
  have hrules : standard.resolver.plainRules "z-1" = .ok [⟨["z-index: 1;"], ⟨none, none, none, none⟩⟩] := by
    rw [Config.resolver_eq_listed]
    decide +kernel
  have hresolve : standard.resolver.resolve [] "z-1" = _ :=
    (standard.resolver.resolve_of_not_preset (hplain "z-1" (by decide)).1).trans hrules
  have hentry := (mem_resolved hg').2 ⟨by decide, hresolve, by simp⟩
  refine List.mem_flatMap.2 ⟨⟨none, none⟩, List.mem_cons_self .., List.mem_flatMap.2 ⟨_, hentry, ?_⟩⟩
  decide +kernel

theorem read_base {bs : List (Stylesheet.Place × Block)} {rules : Table String (List Rule)}
    (hbs : placed Vocabulary.breakpoints rules = bs) (hne : bs ≠ []) (hbase : ∀ b ∈ bs, b.1 = ⟨none, none⟩)
    {cs : List Cut} (hc : Renders (Section.base (bs.map Prod.snd)).text.toList cs) :
    readTrimmed (emit standard.opening Vocabulary.breakpoints rules).toList =
      [((blockOf ":root" standard.mergedTheme.properties).found []).map trim] ++ assemble [] [] cs := by
  have htheme : standard.mergedTheme = .standard := rfl
  have hroot := readable_openingBlocks htheme _ (List.mem_cons_self ..)
  have hopening : Cutting (standard.opening.sections.map Section.text)
      ((standard.openingBlocks.map Block.written).flatMap Written.cuts) := by
    rw [List.flatMap_map]
    exact cutting_opening htheme
  have hcutting := hopening.append (Cutting.single hc)
  have hrenders := (hcutting.joined (show Blanks "\n\n".toList by decide)).append
    (Renders.blanks (show Blanks "\n".toList by decide))
  have htext : emit standard.opening Vocabulary.breakpoints rules = "\n\n".intercalate
      (standard.opening.sections.map Section.text ++ [(Section.base (bs.map Prod.snd)).text]) ++ "\n" := by
    rw [emit, render, sections, hbs, ruleSections_of_base _ hne hbase, List.map_append, List.map_singleton]
  rw [← String.toList_append, ← htext, List.append_nil] at hrenders
  rw [read_renders hrenders, assemble_blocks rfl, ← hroot.found_written []]
  rfl

def placedOf (es : List (String × List Rule)) : List (Stylesheet.Place × Block) :=
  es.flatMap fun e => (Rule.merge e.2).flatMap (blocksOf Vocabulary.breakpoints e.1)

theorem read_rules {es : List (String × List Rule)} (hd : (es.map Prod.fst).Nodup)
    (ho : (es.map Prod.fst).Pairwise (· ≤ ·))
    (h : ∀ e ∈ es, standard.resolver.presetClasses? (standard.resolver.baseOf e.1) = none ∧
      standard.resolver.plainRules e.1 = .ok e.2 ∧ e.2 ≠ [])
    (hne : placedOf es ≠ []) (hbase : ∀ b ∈ placedOf es, b.1 = ⟨none, none⟩) {cs : List Cut}
    (hc : Renders (Section.base ((placedOf es).map Prod.snd)).text.toList cs) :
    ∃ g, standard.generate (es.map Prod.fst) false = .ok g ∧ readTrimmed g.css.toList =
      [((blockOf ":root" standard.mergedTheme.properties).found []).map trim] ++ assemble [] [] cs := by
  obtain ⟨g, hg, hentries⟩ := exists_entries_generate hd ho (standard.resolver.resolve_entries h) false
  have hplaced : placed Vocabulary.breakpoints g.resolved = placedOf es := by
    rw [placed, hentries]
    rfl
  exact ⟨g, hg, (generate_eq_ok hg).2 ▸ read_base hplaced hne hbase hc⟩

def openRules : List (String × List Rule) := [
  ("m-[\x7b]", [⟨["margin: \x7b;"], ⟨none, none, none, none⟩⟩]),
  ("z-1", [⟨["z-index: 1;"], ⟨none, none, none, none⟩⟩])]

theorem open_brace :
    ∃ g g', standard.generate ["z-1"] false = .ok g ∧ standard.generate ["m-[\x7b]", "z-1"] false = .ok g' ∧
      layerFound ∈ readTrimmed g.css.toList ∧ layerFound ∉ readTrimmed g'.css.toList := by
  have hplain : ∀ e ∈ openRules, standard.resolver.presetClasses? (standard.resolver.baseOf e.1) = none ∧
      standard.resolver.plainRules e.1 = .ok e.2 ∧ e.2 ≠ [] := by
    rw [Config.resolver_eq_listed]
    decide +kernel
  have hlayer : placedOf openRules.tail = [(⟨none, none⟩, ⟨".z-1", ["z-index: 1;"]⟩)] := by decide +kernel
  have hboth : placedOf openRules = (⟨none, none⟩, ⟨".m-\\[\\\x7b\\]", ["margin: \x7b;"]⟩) ::
      placedOf openRules.tail := by decide +kernel
  have hroot : layerFound ≠ ((blockOf ":root" standard.mergedTheme.properties).found []).map trim := by
    intro he
    have hhead : layerFound.head = trim ":root".toList := congrArg Found.head he
    revert hhead
    decide
  have hcuts : Renders (Section.base ((placedOf openRules.tail).map Prod.snd)).text.toList
      [⟨".z-1".toList, '\x7b'⟩, ⟨"z-index: 1".toList, ';'⟩, ⟨[], '\x7d'⟩] := by
    rw [hlayer]
    exact Renders.of_cuts (by decide +kernel)
  have hcuts' : Renders (Section.base ((placedOf openRules).map Prod.snd)).text.toList
      [⟨".m-\\[\\\x7b\\]".toList, '\x7b'⟩, ⟨"margin:".toList, '\x7b'⟩, ⟨[], ';'⟩, ⟨[], '\x7d'⟩,
        ⟨".z-1".toList, '\x7b'⟩, ⟨"z-index: 1".toList, ';'⟩, ⟨[], '\x7d'⟩] := by
    rw [hboth, hlayer]
    exact Renders.of_cuts (by decide +kernel)
  obtain ⟨g, hg, hread⟩ := read_rules (by decide) (by decide)
    (fun e he => hplain e (List.mem_of_mem_tail he)) (by simp [hlayer]) (by simp [hlayer]) hcuts
  obtain ⟨g', hg', hread'⟩ := read_rules (by decide) (by decide) hplain (by simp [hboth])
    (by simp [hboth, hlayer]) hcuts'
  refine ⟨g, g', hg, hg', ?_, ?_⟩
  · rw [hread]
    exact List.mem_append_right _ (by decide +kernel)
  · rw [hread', List.mem_append, List.mem_singleton]
    exact not_or.2 ⟨hroot, by decide +kernel⟩

end Config

end UtilityCss
