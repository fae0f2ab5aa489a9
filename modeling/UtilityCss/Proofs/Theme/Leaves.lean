import Mathlib.Tactic.Tauto
import UtilityCss.Proofs.Color.Lookup
import UtilityCss.Theme.Properties

/-!
The leaves of a theme: tokens and shades. Each has one custom property, and where the names of colours can stand
in identifiers as they are, the properties and the palette give a colour the same value.
-/

namespace UtilityCss

open Table Text Theme

structure Leaf where
  name : String
  shade : Option String
  value : String

namespace Leaf

def ofColor (name : String) : Color → List Leaf
  | .flat v => [⟨name, none, v⟩]
  | .scale shades => shades.entries.map fun s => ⟨name, some s.1, s.2⟩

def all (tokens : Table String Color) : List Leaf :=
  tokens.entries.flatMap fun e => ofColor e.1 e.2

def flatName (l : Leaf) : String :=
  match l.shade with
  | none => l.name
  | some s => l.name ++ "-" ++ s

def property (start : String) (l : Leaf) : String :=
  match l.shade with
  | none => start ++ identifier l.name
  | some s => start ++ identifier l.name ++ "-" ++ identifier s

/-- Whether the names of a leaf can stand in an identifier as they are. -/
structure Spelled (l : Leaf) : Prop where
  name : ∀ c ∈ l.name.toList, isNameChar c = true
  shade : ∀ s ∈ l.shade, ∀ c ∈ s.toList, isNameChar c = true

end Leaf

theorem isNameChar_iff (c : Char) : isNameChar c = true ↔ c.isAlphanum = true ∨ c = '-' ∨ c = '_' := by
  unfold Char.isAlphanum Char.isAlpha Char.isUpper Char.isLower
  simp only [isNameChar, isAsciiLetter, isAsciiDigit, Char.isDigit, Bool.or_eq_true, Bool.and_eq_true,
    decide_eq_true_eq, beq_iff_eq, ge_iff_le, Char.le_def]
  tauto

theorem isNameChar_identifier (key : String) : ∀ c ∈ (identifier key).toList, isNameChar c = true := by
  rw [identifier, String.toList_ofList, List.forall_mem_map]
  intro c _
  split
  · assumption
  · decide

theorem identifier_eq_self {key : String} (h : ∀ c ∈ key.toList, isNameChar c = true) : identifier key = key := by
  have hkeep : (key.toList.map fun c => if isNameChar c then c else '_') = key.toList.map id :=
    List.map_congr_left fun c hc => if_pos (h c hc)
  rw [identifier, hkeep, List.map_id, String.ofList_toList]

theorem propertyStart_spelled (c : Category) : ∃ r, (propertyStart c).toList = '-' :: '-' :: r ∧ r ≠ [] ∧
    ∀ x ∈ r, isNameChar x = true := by
  rcases c with _ | s
  · exact ⟨"color-".toList, by decide⟩
  · cases s
    · exact ⟨"spacing-".toList, by decide⟩
    · exact ⟨"font-size-".toList, by decide⟩
    · exact ⟨"radius-".toList, by decide⟩
    · exact ⟨"shadow-".toList, by decide⟩
    · exact ⟨"max-w-".toList, by decide⟩

namespace Leaf

variable (l : Leaf)

theorem property_eq (start : String) : ∃ r, (l.property start).toList = start.toList ++ r ∧
    ∀ x ∈ r, isNameChar x = true := by
  rw [property.eq_def]
  split
  · exact ⟨_, String.toList_append, isNameChar_identifier l.name⟩
  · rename_i s _
    refine ⟨(identifier l.name).toList ++ '-' :: (identifier s).toList, by simp, ?_⟩
    rw [List.forall_mem_append, List.forall_mem_cons]
    exact ⟨isNameChar_identifier l.name, by decide, isNameChar_identifier s⟩

theorem Spelled.property_eq {l : Leaf} (h : l.Spelled) (start : String) : l.property start = start ++ l.flatName := by
  rw [property.eq_def, flatName.eq_def]
  split
  · rw [identifier_eq_self h.name]
  · rename_i s hs
    rw [identifier_eq_self h.name, identifier_eq_self (h.shade s hs)]
    simp only [String.append_assoc]

theorem map_ofColor (name : String) (c : Color) :
    Palette.leaves name c = (ofColor name c).map fun l => (l.flatName, l.value) := by
  cases c with
  | flat v => rfl
  | scale shades =>
    rw [Palette.leaves, ofColor, List.map_map]
    rfl

end Leaf

variable (t : Theme)

theorem properties_eq : t.properties = categories.flatMap fun c =>
    (Leaf.all (t.category c)).map fun l => (l.property (propertyStart c), l.value) := by
  have htoken (start key : String) (c : Color) :
      tokenProperties start key c = (Leaf.ofColor key c).map fun l => (l.property start, l.value) := by
    cases c with
    | flat v => rfl
    | scale shades =>
      rw [tokenProperties, Leaf.ofColor, List.map_map]
      rfl
  rw [properties]
  apply List.flatMap_congr
  intro c _
  rw [categoryProperties, Leaf.all, List.map_flatMap]
  exact List.flatMap_congr fun e _ => htoken _ _ _

theorem property_spelled : ∀ e ∈ t.properties, ∃ r, e.1.toList = '-' :: '-' :: r ∧ r ≠ [] ∧
    ∀ x ∈ r, isNameChar x = true := by
  rw [properties_eq, List.forall_mem_flatMap]
  intro c _
  rw [List.forall_mem_map]
  intro l _
  obtain ⟨r, hstart, hne, hr⟩ := propertyStart_spelled c
  obtain ⟨r', hl, hr'⟩ := l.property_eq (propertyStart c)
  refine ⟨r ++ r', by rw [hl, hstart]; rfl, by simp [hne], ?_⟩
  rw [List.forall_mem_append]
  exact ⟨hr, hr'⟩

theorem leaves_eq : (t.colors.entries.flatMap fun e => Palette.leaves e.1 e.2) =
    (Leaf.all t.colors).map fun l => (l.flatName, l.value) := by
  rw [Leaf.all, List.map_flatMap]
  exact List.flatMap_congr fun e _ => Leaf.map_ofColor e.1 e.2

theorem lastValue_properties {t : Theme} (k : String) (h : ∀ l ∈ Leaf.all t.colors, l.Spelled) :
    lastValue ("--color-" ++ k) t.properties =
      lastValue k ((Leaf.all t.colors).map fun l => (l.flatName, l.value)) := by
  have hscale : ∀ s l, Leaf.property (propertyStart (.tokens s)) l ≠ "--color-" ++ k := by
    intro s l he
    obtain ⟨r, hl, _⟩ := l.property_eq (propertyStart (.tokens s))
    rw [he] at hl
    cases s <;> simp [propertyStart] at hl
  have hrest : lastValue ("--color-" ++ k) ((Scale.all.map Category.tokens).flatMap fun c =>
      (Leaf.all (t.category c)).map fun l => (l.property (propertyStart c), l.value)) = none := by
    rw [lastValue_eq_none]
    intro hm
    obtain ⟨e, he, hk⟩ := List.mem_map.1 hm
    obtain ⟨c, hc, he⟩ := List.mem_flatMap.1 he
    obtain ⟨s, _, rfl⟩ := List.mem_map.1 hc
    obtain ⟨l, _, rfl⟩ := List.mem_map.1 he
    exact hscale s l hk
  have hcolors : (Leaf.all (t.category .colors)).map (fun l => (l.property (propertyStart .colors), l.value)) =
      ((Leaf.all t.colors).map fun l => (l.flatName, l.value)).map fun e => ("--color-" ++ e.1, e.2) := by
    rw [List.map_map]
    apply List.map_congr_left
    intro l hl
    rw [(h l hl).property_eq]
    rfl
  rw [properties_eq, categories, List.flatMap_cons, lastValue_append, hrest, Option.none_or, hcolors]
  exact lastValue_map (f := ("--color-" ++ ·)) fun e _ he => (String.append_right_inj _).1 he

/-- Each leaf has one property, in order, named by an identifier. In the palette of a theme, as in that of
unchecked colours, the last leaf of a flat name decides, and a scale without such a leaf stands for its default
shade. Where the names of all colours can stand in identifiers as they are, the last property of a colour and the
palette agree. -/
theorem palette_agrees :
    (∀ t : Theme, t.properties = [.colors, .tokens .spacing, .tokens .fontSize, .tokens .borderRadius,
        .tokens .shadows, .tokens .maxWidth].flatMap fun c =>
          (Leaf.all (t.category c)).map fun l => (l.property (propertyStart c), l.value)) ∧
      (∀ t : Theme, ∀ e ∈ t.properties, ∃ r, e.1.toList = '-' :: '-' :: r ∧ r ≠ [] ∧
        ∀ x ∈ r, x.isAlphanum = true ∨ x = '-' ∨ x = '_') ∧
      (∀ (t : Theme) (k : String), (Palette.ofTheme t).get? k =
        (lastValue k ((Leaf.all t.colors).map fun l => (l.flatName, l.value))).or
          ((t.colors.get? k).bind Color.mainShade?)) ∧
      (∀ (colors : List (Scalar × Datum)) (k : String), (Datum.palette (.map colors)).named.get? k =
        (lastValue (.text k) (colors.flatMap Datum.flatLeaves)).or
          (colors.findSome? fun e => if e.1 = .text k then Datum.mainShade? e.2 else none)) ∧
      ∀ t : Theme, (∀ l ∈ Leaf.all t.colors, l.Spelled) → ∀ l ∈ Leaf.all t.colors, ∃ v,
        (Palette.ofTheme t).get? l.flatName = some v ∧
          lastValue ("--color-" ++ l.flatName) t.properties = some v := by
  have hget (t : Theme) (k : String) := Palette.get?_ofTheme t k
  simp only [leaves_eq] at hget
  refine ⟨properties_eq, fun t e he => ?_, hget, Datum.get?_named_palette, fun t h l hl => ?_⟩
  · obtain ⟨r, hr, hne, hall⟩ := property_spelled t e he
    exact ⟨r, hr, hne, fun x hx => (isNameChar_iff x).1 (hall x hx)⟩
  · have hmem : l.flatName ∈ ((Leaf.all t.colors).map fun l => (l.flatName, l.value)).map Prod.fst := by
      rw [List.map_map]
      exact List.mem_map_of_mem hl
    obtain ⟨v, hv⟩ := Option.isSome_iff_exists.1 ((lastValue_isSome _ _).2 hmem)
    exact ⟨v, by rw [hget, hv, Option.some_or], by rw [lastValue_properties _ h, hv]⟩

def clashing : Theme :=
  { Theme.empty with colors := .ofList [("blue", .scale (.ofList [("500", "#01a"), ("600", "#02b")])),
    ("blue-500", .flat "#03c")] }

theorem palette_agrees_clashing : (∀ l ∈ Leaf.all clashing.colors, l.Spelled) ∧
    (Palette.ofTheme clashing).get? "blue-500" = some "#03c" ∧
    lastValue "--color-blue-500" clashing.properties = some "#03c" ∧
    (Palette.ofTheme clashing).get? "blue" = some "#01a" ∧
    clashing.properties = [("--color-blue-500", "#01a"), ("--color-blue-600", "#02b"), ("--color-blue-500", "#03c")] := by
  have hall : Leaf.all clashing.colors =
      [⟨"blue", some "500", "#01a"⟩, ⟨"blue", some "600", "#02b"⟩, ⟨"blue-500", none, "#03c"⟩] := rfl
  have hspelled : ∀ l ∈ Leaf.all clashing.colors, l.Spelled := by
    rw [hall]
    simp only [List.forall_mem_cons, List.not_mem_nil, false_imp_iff, implies_true, and_true]
    exact ⟨⟨by decide, by decide⟩, ⟨by decide, by decide⟩, ⟨by decide, by decide⟩⟩
  obtain ⟨hproperties, _, hget, _, hagree⟩ := palette_agrees
  obtain ⟨v, hv, hlast⟩ := hagree clashing hspelled ⟨"blue-500", none, "#03c"⟩ (by rw [hall]; simp)
  have hblue : (Palette.ofTheme clashing).get? "blue-500" = some "#03c" := by
    rw [hget, hall]
    decide
  obtain rfl : v = "#03c" := Option.some_inj.1 (hv.symm.trans hblue)
  refine ⟨hspelled, hblue, hlast, ?_, ?_⟩
  · rw [hget, hall]
    decide
  · rw [hproperties]
    decide

end UtilityCss
