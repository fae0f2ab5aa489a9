import UtilityCss.Proofs.Cascade.Sections
import UtilityCss.Proofs.Cascade.Stops
import UtilityCss.Proofs.Expansion.Families

/-!
The classes of a gradient work together. Their rules stand in the order of the names, in which the colour
between comes after those that it is put between, and an element with all of them has the one image, however
the classes are listed.
-/

namespace UtilityCss

open Token Registry Outcome Stylesheet

def GradientStop.label : GradientStop → String
  | .first => "from"
  | .middle => "via"
  | .last => "to"

def gradientLabels : List String :=
  ["bg-gradient-to", "from", "to", "via"]

theorem leads_of_label {label : String} {family : Family} (hl : label ∈ gradientLabels)
    (hf : (label, family) ∈ families) : Leads label family := by
  have hnames : ∀ other ∈ standard.keys ++ Entry.standard.keys ++
      (Vocabulary.breakpoints.keys ++ Vocabulary.modes ++ Vocabulary.variants.keys),
      ∀ label ∈ gradientLabels, ¬ (label ++ "-").toList <+: other.toList := by
    rw [standard_eq_listed, Entry.standard_eq_listed]
    decide +kernel
  have hlabels : ∀ label ∈ gradientLabels, ':' ∉ label.toList ∧ ∃ c ∈ label.toList.head?, c ≠ '-' := by
    decide +kernel
  constructor
  · exact mem_standard hf
  · exact fun other ho => hnames other (List.mem_append_left _ (List.mem_append_left _ ho)) label hl
  · exact fun other ho => hnames other (List.mem_append_left _ (List.mem_append_right _ ho)) label hl
  · exact fun other ho => hnames other (List.mem_append_right _ ho) label hl
  · exact (hlabels label hl).1
  · exact (hlabels label hl).2

theorem leads_direction : Leads "bg-gradient-to" .gradientDirection :=
  leads_of_label (by decide) (by simp [families])

theorem leads_stop (stop : GradientStop) : Leads stop.label (.gradientStop stop) := by
  apply leads_of_label
  · cases stop <;> decide
  · cases stop <;> simp [families, GradientStop.label]

namespace Cascade

variable {theme : Theme} {words : List String}

abbrev standardResolver (theme : Theme) : Resolver :=
  .standard theme .empty

structure Class where
  label : String
  key : String
  declarations : List (String × String)

namespace Class

variable (words) (x : Class)

def token : String :=
  prefixed words (x.label ++ "-" ++ x.key)

def rules : List Rule :=
  [⟨Rule.linesOf x.declarations, contextBehind words none⟩]

end Class

def Stop.asClass (s : Stop (.ofTheme theme)) (stop : GradientStop) : Class :=
  ⟨stop.label, s.key, s.declarations stop⟩

namespace Gradient

variable (g : Gradient (.ofTheme theme))

def classes : List Class :=
  ⟨"bg-gradient-to", g.direction, [("background-image", imageText g.side)]⟩ ::
    g.stops.map fun p => p.2.asClass p.1

def tokens (words : List String) : List String :=
  g.classes.map (Class.token words)

end Gradient

section Resolving

variable (hw : ∀ p ∈ words, standardWords.Known p)

include hw

theorem resolve_direction (g : Gradient (.ofTheme theme)) :
    (standardResolver theme).resolve [] (prefixed words ("bg-gradient-to" ++ "-" ++ g.direction)) =
      .ok [⟨Rule.linesOf [("background-image", imageText g.side)], contextBehind words none⟩] := by
  rw [leads_direction.resolve_prefixed hw, Family.resolve, g.directed]
  rfl

theorem resolve_stop (s : Stop (.ofTheme theme)) (stop : GradientStop) :
    (standardResolver theme).resolve [] ((s.asClass stop).token words) =
      (Family.stopDeclarations s.color stop).map fun ds => [⟨Rule.linesOf ds, contextBehind words none⟩] := by
  have hcolor : (Surroundings.ofTheme theme).palette.resolve s.key = .ok (some s.color) := s.resolved
  rw [Class.token, Stop.asClass, (leads_stop stop).resolve_prefixed hw, Family.resolve, hcolor]
  simp only [bind, Except.bind]
  cases Family.stopDeclarations s.color stop <;> rfl

theorem fails_resolve_stop (s : Stop (.ofTheme theme)) (stop : GradientStop) :
    Fails ((standardResolver theme).resolve [] ((s.asClass stop).token words)) ↔
      stop = .first ∧ Color.Cropped s.color := by
  have hcolor : (Surroundings.ofTheme theme).palette.resolve s.key = .ok (some s.color) := s.resolved
  have hrefuses : ¬ (Surroundings.ofTheme theme).palette.Refuses s.key := by
    rw [← Palette.fails_resolve_iff, hcolor]
    exact not_fails_ok _
  rw [Class.token, Stop.asClass, (leads_stop stop).resolve_prefixed hw, fails_map, Family.fails_gradientStop_iff,
    hcolor]
  simp [hrefuses]

end Resolving

theorem Stop.stopDeclarations_eq (s : Stop (.ofTheme theme)) {stop : GradientStop}
    (h : ¬ (stop = .first ∧ Color.Cropped s.color)) :
    Family.stopDeclarations s.color stop = .ok (s.declarations stop) := by
  cases stop with
  | first =>
    have hc : ¬ Fails (Color.transparentStop s.color) := by
      rw [Color.transparentStop, fails_map, Color.fails_withAlpha_iff]
      exact fun hc => h ⟨rfl, hc⟩
    obtain ⟨clear, hclear⟩ := (not_fails_iff _).1 hc
    rw [Family.stopDeclarations, Stop.declarations, Stop.clear, hclear]
    rfl
  | middle => rfl
  | last => rfl

namespace Gradient

variable (g : Gradient (.ofTheme theme))

theorem mem_stops_first (s : Stop (.ofTheme theme)) : (.first, s) ∈ g.stops ↔ s ∈ g.first := by
  simp [stops]

/-- A colour that the first stop cannot be faded from. -/
def Cropped : Prop :=
  ∃ s ∈ g.first, Color.Cropped s.color

variable {g}

theorem resolve_class (hw : ∀ p ∈ words, standardWords.Known p) (hc : ¬ g.Cropped) {x : Class} (hx : x ∈ g.classes) :
    (standardResolver theme).resolve [] (x.token words) = .ok (x.rules words) := by
  rcases List.mem_cons.1 hx with rfl | hx
  · exact resolve_direction hw g
  · obtain ⟨⟨stop, s⟩, hs, rfl⟩ := List.mem_map.1 hx
    have hok : ¬ (stop = .first ∧ Color.Cropped s.color) := by
      rintro ⟨rfl, hcropped⟩
      exact hc ⟨s, (g.mem_stops_first s).1 hs, hcropped⟩
    rw [resolve_stop hw, s.stopDeclarations_eq hok]
    rfl

theorem fails_resolveAll_iff (hw : ∀ p ∈ words, standardWords.Known p) {tokens : List String}
    (ht : ∀ x, x ∈ tokens ↔ x ∈ g.tokens words) :
    Fails ((standardResolver theme).resolveAll tokens) ↔ g.Cropped := by
  rw [Resolver.fails_resolveAll_iff]
  simp only [ht]
  constructor
  · rintro ⟨token, hm, hf⟩
    by_contra hc
    obtain ⟨x, hx, rfl⟩ := List.mem_map.1 hm
    rw [resolve_class hw hc hx] at hf
    exact not_fails_ok _ hf
  · rintro ⟨s, hs, hcropped⟩
    have hstop := (g.mem_stops_first s).2 hs
    refine ⟨(s.asClass .first).token words, ?_, (fails_resolve_stop hw s .first).2 ⟨rfl, hcropped⟩⟩
    exact List.mem_map_of_mem (List.mem_cons_of_mem _ (List.mem_map_of_mem hstop))

theorem prefixed_eq (words : List String) : ∃ front, ∀ s, prefixed words s = front ++ s := by
  induction words with
  | nil => exact ⟨"", fun s => String.empty_append.symm⟩
  | cons p words ih =>
    obtain ⟨front, hfront⟩ := ih
    refine ⟨p ++ ":" ++ front, fun s => ?_⟩
    rw [prefixed, List.foldr_cons, ← prefixed, hfront, ← String.append_assoc]

theorem lt_of_heads {front x y : String} {c d : Char} (hx : x.toList.head? = some c) (hy : y.toList.head? = some d)
    (h : c < d) : front ++ x < front ++ y := by
  obtain ⟨r, hr⟩ := List.head?_eq_some_iff.1 hx
  obtain ⟨t, ht⟩ := List.head?_eq_some_iff.1 hy
  change (front ++ x).toList < (front ++ y).toList
  rw [String.toList_append, String.toList_append, hr, ht]
  apply List.append_left_lt
  exact List.cons_lt_cons_iff.2 (.inl h)

def StartsBefore (x y : String) : Prop :=
  ∃ c ∈ x.toList.head?, ∃ d ∈ y.toList.head?, c < d

theorem pairwise_labels (g : Gradient (.ofTheme theme)) : (g.classes.map Class.label).Pairwise StartsBefore := by
  have hall : gradientLabels.Pairwise StartsBefore := by
    unfold StartsBefore
    decide
  have hoption (stop : GradientStop) (o : Option (Stop (.ofTheme theme))) :
      ((o.map (stop, ·)).toList.map fun p => (p.2.asClass p.1).label).Sublist [stop.label] := by
    cases o
    · exact List.nil_sublist _
    · exact List.Sublist.refl _
  apply List.Pairwise.sublist _ hall
  rw [classes, stops, List.map_cons, List.map_map, List.map_append, List.map_append]
  exact (((hoption .first g.first).append (hoption .last g.last)).append (hoption .middle g.middle)).cons_cons _

theorem pairwise_tokens (g : Gradient (.ofTheme theme)) (words : List String) : (g.tokens words).Pairwise (· < ·) := by
  obtain ⟨front, hfront⟩ := prefixed_eq words
  apply List.pairwise_map.2
  apply (List.pairwise_map.1 g.pairwise_labels).imp
  rintro x y ⟨c, hc, d, hd, hlt⟩
  have hhead {label : String} (key : String) {c : Char} (h : c ∈ label.toList.head?) :
      (label ++ "-" ++ key).toList.head? = some c := by
    rw [String.append_assoc, String.toList_append, List.head?_append, Option.mem_def.1 h]
    rfl
  rw [Class.token, Class.token, hfront, hfront]
  exact lt_of_heads (hhead x.key hc) (hhead y.key hd) hlt

theorem entries_resolveAll (hw : ∀ p ∈ words, standardWords.Known p) (hc : ¬ g.Cropped) {tokens : List String}
    (ht : ∀ x, x ∈ tokens ↔ x ∈ g.tokens words) {rules : Table String (List Rule)}
    (hr : (standardResolver theme).resolveAll tokens = .ok rules) :
    rules.entries = g.classes.map fun x => (x.token words, x.rules words) := by
  -- the order of the markup is lost when the tokens are sorted
  have hordered := g.pairwise_tokens words
  have hsorted : Resolver.sorted tokens = g.tokens words := by
    rw [Resolver.sorted_congr ht]
    apply Resolver.sorted_eq_self
    · exact hordered.imp fun h => String.ne_of_lt h
    · exact hordered.imp fun h => String.not_lt.1 (String.lt_asymm h)
  have hfst : g.tokens words = (g.classes.map fun x => (x.token words, x.rules words)).map Prod.fst := by
    rw [List.map_map]
    rfl
  rw [(standardResolver theme).entries_resolveAll hr, hsorted, hfst]
  apply (standardResolver theme).entriesOf_eq
  intro e he
  obtain ⟨x, hx, rfl⟩ := List.mem_map.1 he
  exact ⟨resolve_class hw hc hx, List.cons_ne_nil _ _⟩

theorem common_resolveAll {rules : Table String (List Rule)}
    (h : rules.entries = g.classes.map fun x => (x.token words, x.rules words)) :
    Common (contextBehind words none) rules := by
  intro e he
  rw [h] at he
  obtain ⟨x, _, rfl⟩ := List.mem_map.1 he
  exact ⟨_, rfl⟩

theorem linesOfRules_resolveAll {rules : Table String (List Rule)}
    (h : rules.entries = g.classes.map fun x => (x.token words, x.rules words)) :
    linesOfRules rules = Rule.linesOf g.declarations := by
  have hdeclarations : g.declarations = g.classes.flatMap Class.declarations := by
    rw [declarations, classes, List.flatMap_cons, List.flatMap_map]
    rfl
  rw [linesOfRules, h, List.flatMap_map, hdeclarations, Rule.linesOf, List.map_flatMap]
  apply List.flatMap_congr
  intro x _
  rw [Class.rules, List.flatMap_singleton]
  rfl

/-- The classes of a gradient, behind any words and in any order, are refused exactly if the first stop has a
short colour with a line feed. If they are not, there are blocks for them, and an element to which any
sections with blocks apply has one style, in which the image has the first colour, the one between if there
is one, and the last, or the first with its opacity taken away. A colour that is missing or stands for nothing
is transparent. -/
theorem stops_compose (theme : Theme) (g : Gradient (.ofTheme theme)) (words tokens : List String)
    (hw : ∀ p ∈ words, standardWords.Known p) (ht : ∀ x, x ∈ tokens ↔ x ∈ g.tokens words) (outside : Style)
    (ho : Neutral outside) :
    (Fails ((standardResolver theme).resolveAll tokens) ↔ g.Cropped) ∧
    ∀ rules, (standardResolver theme).resolveAll tokens = .ok rules → ∀ o : Opening,
      (∃ s ∈ sections o Vocabulary.breakpoints rules, s.blocks ≠ []) ∧
      ∀ applied : List Section, applied.Sublist (sections o Vocabulary.breakpoints rules) → (∃ s ∈ applied, s.blocks ≠ []) →
        ∃ style, (∀ other, Agrees outside (applied.flatMap Section.lines) other ↔ other = style) ∧
          style "background-image" = some (g.image outside) := by
  have hfails := fails_resolveAll_iff hw ht
  refine ⟨hfails, fun rules hr o => ?_⟩
  have hc : ¬ g.Cropped := by
    rw [← hfails, hr]
    exact not_fails_ok _
  have hentries := entries_resolveAll hw hc ht hr
  have hcommon := common_resolveAll hentries
  refine ⟨hcommon.exists_section ?_ o, fun applied ha hne => ⟨g.styleOn outside, fun other => ?_, rfl⟩⟩
  · rw [hentries]
    exact List.cons_ne_nil _ _
  · apply g.agrees_iff ho
    intro property
    rw [hcommon.declared?_sections ha hne, linesOfRules_resolveAll hentries, declared?_declarations]

end Gradient

theorem Stop.value_of_literal {outside : Style} {palette : Palette String} (s : Stop palette)
    (h : Literal s.color.toList) : s.value outside = some s.color := by
  rw [value, Style.substituted, substitute_of_literal outside h, Option.map_some, String.ofList_toList]

def blueStop : Stop (.ofTheme .standard) :=
  ⟨"blue-500", "#3b82f6", by decide +kernel, by decide⟩

def redStop : Stop (.ofTheme .standard) :=
  ⟨"red-500/50", "rgba(239, 68, 68, 0.5)", by decide +kernel, by decide⟩

def blueToRed : Gradient (.ofTheme .standard) :=
  ⟨"r", "to right", by decide, some blueStop, some redStop, none⟩

theorem image_blueToRed (outside : Style) : blueToRed.image outside =
    "linear-gradient(to right, #3b82f6, rgba(239, 68, 68, 0.5), rgba(59, 130, 246, 0))" := by
  have hfirst : blueToRed.firstValue outside = some "#3b82f6" := blueStop.value_of_literal (by decide)
  have hmiddle : blueToRed.middleValue outside = some "rgba(239, 68, 68, 0.5)" :=
    redStop.value_of_literal (by decide)
  have hclear : blueStop.clear = "rgba(59, 130, 246, 0)" := by decide +kernel
  have hlast : blueToRed.lastValue outside = some "rgba(59, 130, 246, 0)" := congrArg some hclear
  have hcolors : blueToRed.colors outside =
      ", ".intercalate ["#3b82f6", "rgba(239, 68, 68, 0.5)", "rgba(59, 130, 246, 0)"] := by
    simp only [Gradient.colors, hfirst, hmiddle, hlast]
    rfl
  have himage : blueToRed.image outside = "linear-gradient(" ++ "to right" ++ ", " ++ blueToRed.colors outside ++ ")" :=
    rfl
  exact himage.trans (hcolors ▸ by decide +kernel)

theorem stops_compose_fading :
    let words := ["md", "hover", "dark"]
    let tokens := ["md:hover:dark:via-red-500/50", "md:hover:dark:bg-gradient-to-r", "md:hover:dark:from-blue-500"]
    (∀ p ∈ words, standardWords.Known p) ∧ (∀ x, x ∈ tokens ↔ x ∈ blueToRed.tokens words) ∧
      Neutral (fun _ => none) ∧
      ∃ rules, (standardResolver .standard).resolveAll tokens = .ok rules ∧
        ∃ style, (∀ other, Agrees (fun _ => none)
            ((sections ⟨none, none⟩ Vocabulary.breakpoints rules).flatMap Section.lines) other ↔ other = style) ∧
          style "background-image" =
            some "linear-gradient(to right, #3b82f6, rgba(239, 68, 68, 0.5), rgba(59, 130, 246, 0))" := by
  intro words tokens
  have hw : ∀ p ∈ words, standardWords.Known p := by
    unfold Words.Known
    decide +kernel
  have ht : ∀ x, x ∈ tokens ↔ x ∈ blueToRed.tokens words := by
    have hsame : tokens.Perm (blueToRed.tokens words) := by decide +kernel
    exact fun x => hsame.mem_iff
  have ho : Neutral (fun _ => none) := fun _ _ => rfl
  obtain ⟨hfails, hcompose⟩ := Gradient.stops_compose .standard blueToRed words tokens hw ht _ ho
  have hc : ¬ blueToRed.Cropped := by
    rintro ⟨s, hs, r, g, b, he, _⟩
    cases hs
    cases he
  obtain ⟨rules, hr⟩ := (not_fails_iff _).1 (mt hfails.1 hc)
  obtain ⟨hexists, hstyle⟩ := hcompose rules hr ⟨none, none⟩
  obtain ⟨style, hunique, himage⟩ := hstyle _ (List.Sublist.refl _) hexists
  refine ⟨hw, ht, ho, rules, hr, style, hunique, ?_⟩
  rw [himage, image_blueToRed]

def creasedTheme : Theme :=
  { Theme.empty with colors := .ofList [("x", .flat "#fff\n")] }

def creased : Gradient (.ofTheme creasedTheme) :=
  let stop : Stop (.ofTheme creasedTheme) := ⟨"x", "#fff\n", by decide +kernel, by decide⟩
  ⟨"r", "to right", by decide, some stop, none, some stop⟩

theorem creased_refused :
    (Palette.ofTheme creasedTheme).resolve "x" = .ok (some "#fff\n") ∧
      Fails ((standardResolver creasedTheme).resolveAll ["bg-gradient-to-r", "from-x", "to-x"]) := by
  refine ⟨by decide +kernel, ?_⟩
  have hnone : ∀ p ∈ ([] : List String), standardWords.Known p := nofun
  have htokens : creased.tokens [] = ["bg-gradient-to-r", "from-x", "to-x"] := by decide +kernel
  have hcropped : creased.Cropped := ⟨_, rfl, 'f', 'f', 'f', by decide, by decide⟩
  rw [← htokens]
  exact (Gradient.fails_resolveAll_iff hnone fun _ => Iff.rfl).2 hcropped

end Cascade

end UtilityCss
