import UtilityCss.Proofs.Refusal.Color
import UtilityCss.Proofs.Refusal.Value
import UtilityCss.Proofs.Text.Pieces
import UtilityCss.Proofs.Utility.Properties

/-!
Literals in brackets as values. The families that take a value declare the literal, inside a function of their
own if they have one. The span of columns does not: it knows no literals. Nor does text where a font size has
the name of a literal colour.
-/

namespace UtilityCss

open Text Value Outcome

def bracketed (literal : String) : String :=
  "[" ++ literal ++ "]"

def literalValue (literal : String) : String :=
  String.ofList (literal.toList.map fun c => if c = '_' then ' ' else c)

namespace Family

def TakesValue : Family → Prop
  | gradientDirection | transition => False
  | _ => True

def around (value : String) : Family → String
  | scale => "scale(" ++ value ++ ")"
  | backdropBlur => "blur(" ++ value ++ ")"
  | gradientStop .middle => "var(--gradient-from, transparent), " ++ value ++ ", var(--gradient-to, transparent)"
  | _ => value

/-- The literals that a family does not declare. -/
inductive Overlooks (theme : Theme) (literal : String) : Family → Prop
  | columnSpan : Overlooks theme literal columnSpan
  | text {size : String} (hcolor : isColor (literalValue literal) = true)
      (hsize : theme.fontSize.get? (bracketed literal) = some size) (hne : size ≠ literalValue literal) :
      Overlooks theme literal text

def Declares (family : Family) (value : String) (o : Option Resolution) : Prop :=
  ∃ s ∈ o, ∃ property ∈ family.properties, (property, family.around value) ∈ s.declarations

end Family

section Keys

variable {literal : String}

theorem toList_bracketed (literal : String) : (bracketed literal).toList = '[' :: literal.toList ++ [']'] := by
  simp [bracketed]

theorem head?_bracketed (literal : String) : (bracketed literal).toList.head? = some '[' := by
  rw [toList_bracketed]
  rfl

theorem getLast?_bracketed (literal : String) : (bracketed literal).toList.getLast? = some ']' := by
  rw [toList_bracketed, List.getLast?_concat]

theorem toList_literalValue (literal : String) :
    (literalValue literal).toList = replaceChar '_' [' '] literal.toList := by
  rw [literalValue, String.toList_ofList, replaceChar, ← List.flatMap_singleton' literal.toList, List.map_flatMap,
    List.flatMap_singleton']
  apply List.flatMap_congr
  intro c _
  rw [List.map_singleton]
  split <;> rfl

theorem literalValue_ne_empty (h : literal ≠ "") : literalValue literal ≠ "" := by
  rw [literalValue, ne_eq, ← String.toList_inj, String.toList_ofList]
  simpa using h

theorem newline_not_mem_literalValue (h : '\n' ∉ literal.toList) : '\n' ∉ (literalValue literal).toList := by
  rw [literalValue, String.toList_ofList, List.mem_map]
  rintro ⟨c, hc, he⟩
  split at he
  · cases he
  · exact h (he ▸ hc)

theorem inside_bracketed (literal : String) :
    String.ofList (replaceChar '_' [' '] ((bracketed literal).toList.drop 1).dropLast) = literalValue literal := by
  rw [toList_bracketed, List.cons_append, List.drop_succ_cons, List.drop_zero, List.dropLast_concat,
    ← toList_literalValue, String.ofList_toList]

theorem bracket?_bracketed (h : literal ≠ "") : bracket? (bracketed literal) = some (literalValue literal) := by
  have hlen : literal.toList.length ≠ 0 := by simpa using h
  rw [bracket?, inside_bracketed, head?_bracketed, getLast?_bracketed, if_pos]
  simp [toList_bracketed]
  omega

theorem resolve_bracketed (p : Palette String) (h : literal ≠ "") :
    p.resolve (bracketed literal) = .ok (some (literalValue literal)) := by
  have hvalue : (replaceChar '_' [' '] ((bracketed literal).toList.drop 1).dropLast).isEmpty = false := by
    have hne := literalValue_ne_empty h
    rw [← inside_bracketed] at hne
    simpa using hne
  rw [Palette.resolve]
  dsimp only
  rw [hvalue, inside_bracketed, head?_bracketed, getLast?_bracketed, if_neg (by simp [toList_bracketed]),
    if_pos (by decide)]
  rfl

variable {α : Type} {t : Table String α}

theorem get?_of_head {s : String} (hs : s.toList.head? = some '[') (h : ∀ k ∈ t.keys, k.toList.head? ≠ some '[') :
    t.get? s = none := by
  rw [← Option.not_isSome_iff_eq_none]
  exact fun hc => h s ((t.contains_iff s).1 hc) hs

theorem isEmpty_bracketed (literal : String) : (bracketed literal).isEmpty = false := by
  rw [← Bool.not_eq_true, String.isEmpty_iff, ← String.toList_inj, toList_bracketed]
  exact nofun

end Keys

namespace Family

variable {literal : String} (at_ : Surroundings)

theorem side?_bracketed (literal : String) : side? (bracketed literal) = none := by
  have hsides : ∀ k ∈ borderSides.keys, k.toList.head? ≠ some '[' := by decide
  have hside {s : String} (hs : s.toList.head? = some '[') (width : String) :
      (borderSides.get? s).map (·, width) = none := by
    rw [get?_of_head hs hsides]
    rfl
  rw [side?]
  cases hc : cut? '-' (bracketed literal).toList with
  | none => exact hside (head?_bracketed literal) ""
  | some p =>
    obtain ⟨front, back⟩ := p
    have hkey := head?_bracketed literal
    rw [cut?_eq_some hc] at hkey
    have hfront : front.head? = some '[' := by
      cases front with
      | nil => cases hkey
      | cons c front => exact hkey
    exact hside (by rwa [String.toList_ofList]) _

theorem resolveBorder_bracketed (h : literal ≠ "") :
    ∃ property ∈ border.properties,
      resolveBorder at_ (bracketed literal) = .ok (some (.unsigned [(property, literalValue literal)])) := by
  have hv := bracket?_bracketed h
  have hstyles : ∀ k ∈ borderStyles, k.toList.head? ≠ some '[' := by decide
  have hstyle : bracketed literal ∉ borderStyles := fun hm => hstyles _ hm (head?_bracketed literal)
  by_cases hcolor : isColor (literalValue literal) = true
  · refine ⟨"border-color", by decide, ?_⟩
    simp [resolveBorder, hv, hcolor, Option.filter]
    rfl
  · refine ⟨"border-width", by decide, ?_⟩
    simp [resolveBorder, hv, hcolor, Option.filter, side?_bracketed, hstyle, one, borderWidth?]
    rfl

theorem exists_transparentStop (h : '\n' ∉ literal.toList) :
    ∃ clear, Color.transparentStop (literalValue literal) = .ok clear := by
  rw [← not_fails_iff, Color.transparentStop, fails_map, Color.fails_withAlpha_iff]
  rintro ⟨r, g, b, hv, _⟩
  apply newline_not_mem_literalValue h
  rw [hv]
  simp

theorem declares_single {family : Family} {property value : String} (hp : property ∈ family.properties)
    (selector : Option String) (negatable : Bool) :
    family.Declares value (some ⟨[(property, family.around value)], selector, negatable⟩) :=
  ⟨_, rfl, property, hp, List.mem_singleton.2 rfl⟩

theorem declares_shared {family : Family} {properties : List String} {value : String}
    (hne : family.properties ≠ []) (hp : family.properties = properties) (negatable : Bool) :
    family.Declares value (some ⟨properties.map (·, family.around value), none, negatable⟩) := by
  obtain ⟨property, hm⟩ := List.exists_mem_of_ne_nil _ hne
  exact ⟨_, rfl, property, hm, List.mem_map_of_mem (hp ▸ hm)⟩

theorem resolveText_bracketed (h : literal ≠ "") : ∃ o, resolveText at_ (bracketed literal) = .ok o ∧
    (text.Declares (literalValue literal) o ↔ ¬ text.Overlooks at_.theme literal) := by
  have hv := bracket?_bracketed h
  have hsize (size : String) : text.Declares (literalValue literal) (some (.signed [("font-size", size)])) ↔
      size = literalValue literal := by
    constructor
    · rintro ⟨_, ⟨⟩, property, _, hm⟩
      exact (Prod.mk.inj (List.mem_singleton.1 hm)).2.symm
    · rintro rfl
      exact declares_single (by decide) none true
  rw [resolveText, hv]
  by_cases hcolor : isColor (literalValue literal) = true
  · rw [Option.filter_some_neg (by simp [hcolor])]
    dsimp only
    cases hs : at_.theme.fontSize.get? (bracketed literal) with
    | some size =>
      refine ⟨_, rfl, (hsize size).trans ⟨?_, fun hno => ?_⟩⟩
      · rintro rfl (_ | ⟨_, hs', hne⟩)
        exact hne (Option.some_inj.1 (hs'.symm.trans hs))
      · by_contra hne
        exact hno (.text hcolor hs hne)
    | none =>
      refine ⟨_, by rw [colored, resolve_bracketed _ h]; rfl, iff_of_true (declares_single (by decide) none false) ?_⟩
      rintro (_ | ⟨_, hs', _⟩)
      rw [hs] at hs'
      cases hs'
  · rw [Option.filter_some_pos (by simp [hcolor])]
    refine ⟨_, rfl, iff_of_true ((hsize _).2 rfl) ?_⟩
    rintro (_ | ⟨hcolor', _, _⟩)
    exact hcolor hcolor'

theorem spanValue_bracketed (h : literal ≠ "") : spanValue (bracketed literal) = .ok none := by
  have hfull : bracketed literal ≠ "full" := by
    intro he
    have hhead := head?_bracketed literal
    rw [he] at hhead
    cases hhead
  have hdigits : ¬ isDigitText (bracketed literal).toList = true := by
    intro hd
    have hv := bracket?_bracketed h
    rw [bracket?_of_isDigitText hd] at hv
    cases hv
  rw [spanValue, if_neg hfull, isPositive, if_neg hdigits]
  rfl

theorem resolveStop_bracketed (stop : GradientStop) (h : literal ≠ "") (hline : '\n' ∉ literal.toList) :
    ∃ o, (gradientStop stop).resolve at_ (bracketed literal) false = .ok o ∧
      (gradientStop stop).Declares (literalValue literal) o := by
  rw [resolve, resolve_bracketed at_.palette h]
  cases stop with
  | first =>
    obtain ⟨clear, hclear⟩ := exists_transparentStop hline
    refine ⟨some (.unsigned [("--gradient-from", literalValue literal), ("--gradient-to", clear),
      ("--gradient-stops", "var(--gradient-from), var(--gradient-to)")]), ?_, _, rfl, "--gradient-from", by decide,
      List.mem_cons_self ..⟩
    simp only [bind, Except.bind, stopDeclarations, hclear]
    rfl
  | middle => exact ⟨_, rfl, declares_single (by decide) none false⟩
  | last => exact ⟨_, rfl, declares_single (by decide) none false⟩

theorem resolve_declares (family : Family) (hvalue : family.TakesValue) (hp : family.properties ≠ [])
    (hspan : family ≠ .columnSpan) (htext : family ≠ .text) (h : literal ≠ "") (hline : '\n' ∉ literal.toList) :
    ∃ o, family.resolve at_ (bracketed literal) false = .ok o ∧ family.Declares (literalValue literal) o := by
  have hv := bracket?_bracketed h
  have hcolor := resolve_bracketed at_.palette h
  have hempty := isEmpty_bracketed literal
  cases family with
  | gradientDirection | transition => exact hvalue.elim
  | text => exact absurd rfl htext
  | columnSpan => exact absurd rfl hspan
  | spacing group =>
    refine ⟨_, ?_, declares_shared hp rfl true⟩
    rw [resolve, hempty, spacingValue, hv]
    rfl
  | spaceBetween property =>
    refine ⟨_, ?_, declares_single (List.mem_singleton.2 rfl) (some laterChildren) true⟩
    rw [resolve, hv]
    rfl
  | zIndex =>
    refine ⟨_, ?_, declares_single (List.mem_singleton.2 rfl) none true⟩
    rw [resolve, indexValue, hv]
    rfl
  | opacity =>
    refine ⟨_, ?_, declares_single (List.mem_singleton.2 rfl) none false⟩
    rw [resolve, opacityValue, hv]
    rfl
  | aspectRatio =>
    refine ⟨_, ?_, declares_single (List.mem_singleton.2 rfl) none false⟩
    rw [resolve, hv]
    rfl
  | gridColumns =>
    refine ⟨_, ?_, declares_single (List.mem_singleton.2 rfl) none false⟩
    rw [resolve, columnsValue, hv]
    rfl
  | background =>
    refine ⟨_, ?_, declares_single (List.mem_cons_self ..) none false⟩
    rw [resolve, get?_of_head (head?_bracketed literal) (by decide)]
    dsimp only
    rw [colored, hcolor]
    rfl
  | gradientStop stop => exact resolveStop_bracketed at_ stop h hline
  | border =>
    obtain ⟨property, hm, hb⟩ := resolveBorder_bracketed at_ h
    exact ⟨_, hb, declares_single hm none false⟩
  | radius corners =>
    refine ⟨_, ?_, declares_shared hp rfl false⟩
    rw [resolve, radiusValue, hempty, hv]
    rfl
  | shadow =>
    refine ⟨_, ?_, declares_single (List.mem_singleton.2 rfl) none false⟩
    rw [resolve, shadowValue, hempty, hv]
    rfl
  | scale =>
    refine ⟨_, ?_, declares_single (List.mem_singleton.2 rfl) none false⟩
    rw [resolve, scaleFactor, hv]
    rfl
  | backdropBlur =>
    refine ⟨some (blur (literalValue literal)), ?_, _, rfl, "backdrop-filter", by decide, ?_⟩
    · rw [resolve, hv]
      rfl
    · exact List.mem_cons_self ..
  | timing property =>
    refine ⟨_, ?_, declares_single (List.mem_singleton.2 rfl) none false⟩
    rw [resolve, durationValue, hv]
    rfl
  | ease =>
    refine ⟨_, ?_, declares_single (List.mem_singleton.2 rfl) none false⟩
    rw [resolve, hv]
    rfl

theorem resolve_literal (family : Family) (hvalue : family.TakesValue) (hp : family.properties ≠ []) (h : literal ≠ "")
    (hline : '\n' ∉ literal.toList) : ∃ o, family.resolve at_ (bracketed literal) false = .ok o ∧
      (family.Declares (literalValue literal) o ↔ ¬ family.Overlooks at_.theme literal) := by
  by_cases hspan : family = columnSpan
  · subst hspan
    refine ⟨none, ?_, iff_of_false ?_ fun hno => hno .columnSpan⟩
    · rw [resolve, spanValue_bracketed h]
      rfl
    · rintro ⟨s, hs, _⟩
      cases hs
  by_cases htext : family = text
  · subst htext
    exact resolveText_bracketed at_ h
  obtain ⟨o, ho, hdeclares⟩ := resolve_declares at_ family hvalue hp hspan htext h hline
  refine ⟨o, ho, iff_of_true hdeclares fun hover => ?_⟩
  cases hover with
  | columnSpan => exact hspan rfl
  | text => exact htext rfl

end Family

end UtilityCss
