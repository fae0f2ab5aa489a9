import UtilityCss.Proofs.Cascade.Style
import UtilityCss.Proofs.Refusal.Color
import UtilityCss.Proofs.Table
import UtilityCss.Utility.Family

namespace UtilityCss.Cascade

open Text Family

structure Stop (palette : Palette String) where
  key : String
  color : String
  resolved : palette.resolve key = .ok (some color)
  unrelated : ¬ "--gradient-".toList <:+: color.toList

/-- A direction, and a colour for each stop that there is. -/
structure Gradient (palette : Palette String) where
  direction : String
  side : String
  directed : gradientDirections.get? direction = some side
  first : Option (Stop palette)
  middle : Option (Stop palette)
  last : Option (Stop palette)

variable {palette : Palette String} (style outside : Style)

namespace Stop

variable (s : Stop palette)

def value : Option String :=
  outside.substituted s.color

def clear : String :=
  (Color.transparentStop s.color).toOption.getD "transparent"

end Stop

def orTransparent (value : Option String) : String :=
  value.getD "transparent"

namespace Gradient

variable (g : Gradient palette)

def firstValue : Option String :=
  g.first.bind (Stop.value outside)

def lastValue : Option String :=
  match g.last with
  | some s => s.value outside
  | none => g.first.map Stop.clear

def middleValue : Option String :=
  g.middle.bind (Stop.value outside)

def colors : String :=
  ", ".intercalate ([orTransparent (g.firstValue outside)] ++ (g.middleValue outside).toList ++
    [orTransparent (g.lastValue outside)])

def image : String :=
  "linear-gradient(" ++ g.side ++ ", " ++ g.colors outside ++ ")"

end Gradient

def bothStops : String :=
  "var(--gradient-from), var(--gradient-to)"

def aroundMiddle (color : String) : String :=
  "var(--gradient-from, transparent), " ++ color ++ ", var(--gradient-to, transparent)"

def imageText (side : String) : String :=
  "linear-gradient(" ++ side ++ ", " ++ gradientStops ++ ")"

structure Refers (text : String) (name : String) (fallback : Option String) : Prop where
  reads : ∃ inner, reference? text.toList = some (inner, []) ∧ nameIn inner = name ∧
    fallbackIn? inner = fallback.map String.toList
  custom : "--".toList <+: name.toList

theorem Refers.substitute_plain {text name : String} (h : Refers text name none) (y : List Char) :
    substitute style false (text.toList ++ y) =
      (style name).bind fun v => (substitute style false y).map (v.toList ++ ·) := by
  obtain ⟨inner, hr, hn, hf⟩ := h.reads
  rw [substitute_reference_append style hr, referenced, hn, hf, Style.custom?, if_pos h.custom]
  cases style name <;> rfl

theorem Refers.substitute_or {text name fallback v : String} (h : Refers text name (some fallback))
    (hv : substitute style false fallback.toList = some v.toList) (y : List Char) :
    substitute style false (text.toList ++ y) =
      (substitute style false y).map (((style name).getD v).toList ++ ·) := by
  obtain ⟨inner, hr, hn, hf⟩ := h.reads
  rw [substitute_reference_append style hr, referenced, hn, hf, Style.custom?, if_pos h.custom, Option.map_some,
    Option.bind_some, hv]
  cases style name <;> rfl

def orTransparentText (name : String) : String :=
  "var(" ++ name ++ ", transparent)"

theorem substitute_orTransparent {name : String} (hn : name = "--gradient-from" ∨ name = "--gradient-to")
    (y : List Char) : substitute style false ((orTransparentText name).toList ++ y) =
      (substitute style false y).map ((orTransparent (style name)).toList ++ ·) := by
  have hr : Refers (orTransparentText name) name (some "transparent") := by
    rcases hn with rfl | rfl
    · exact ⟨⟨"--gradient-from, transparent".toList, by decide, by decide, by decide⟩, by decide⟩
    · exact ⟨⟨"--gradient-to, transparent".toList, by decide, by decide, by decide⟩, by decide⟩
  exact hr.substitute_or style (substitute_of_literal style (by decide) false) y

theorem substitute_separator (y : List Char) :
    substitute style false (", ".toList ++ y) = (substitute style false y).map (", ".toList ++ ·) :=
  substitute_literal style (by decide) false y

theorem substituted_bothStops : style.substituted bothStops =
    (style "--gradient-from").bind fun a => (style "--gradient-to").map fun b => a ++ ", " ++ b := by
  have hfrom : Refers "var(--gradient-from)" "--gradient-from" none :=
    ⟨⟨"--gradient-from".toList, by decide, by decide, by decide⟩, by decide⟩
  have hto : Refers "var(--gradient-to)" "--gradient-to" none :=
    ⟨⟨"--gradient-to".toList, by decide, by decide, by decide⟩, by decide⟩
  have htext : bothStops.toList =
      "var(--gradient-from)".toList ++ (", ".toList ++ ("var(--gradient-to)".toList ++ [])) := by decide
  rw [Style.substituted, htext, hfrom.substitute_plain, substitute_separator, hto.substitute_plain, substitute_nil]
  cases style "--gradient-from" with
  | none => rfl
  | some a =>
    cases style "--gradient-to" with
    | none => rfl
    | some b =>
      simp only [Option.bind_some, Option.map_some, Option.some_inj, ← String.toList_inj, String.toList_ofList,
        String.toList_append, List.append_assoc, List.append_nil]

theorem toList_around {front middle back : String} {a b c : List Char} (hfront : front.toList = a ++ b)
    (hback : back.toList = c) : (front ++ middle ++ back).toList = a ++ (b ++ (middle.toList ++ c)) := by
  rw [String.toList_append, String.toList_append, hfront, hback, List.append_assoc, List.append_assoc]

theorem closed_lastStop : Closed (',' :: ' ' :: (orTransparentText "--gradient-to").toList) :=
  fun _ => rfl

theorem substituted_aroundMiddle (color : String) : style.substituted (aroundMiddle color) =
    (style.substituted color).map fun v => orTransparent (style "--gradient-from") ++ ", " ++ v ++ ", " ++
      orTransparent (style "--gradient-to") := by
  have hfront : "var(--gradient-from, transparent), ".toList =
      (orTransparentText "--gradient-from").toList ++ ", ".toList := by decide
  have hback : ", var(--gradient-to, transparent)".toList =
      ',' :: ' ' :: (orTransparentText "--gradient-to").toList := by decide
  have htext : (aroundMiddle color).toList = (orTransparentText "--gradient-from").toList ++ (", ".toList ++
      (color.toList ++ ',' :: ' ' :: (orTransparentText "--gradient-to").toList)) := toList_around hfront hback
  have hlast : substitute style false (' ' :: (orTransparentText "--gradient-to").toList) =
      some (' ' :: (orTransparent (style "--gradient-to")).toList) := by
    have h := substitute_orTransparent style (.inr rfl) []
    rw [List.append_nil, substitute_nil, Option.map_some, List.append_nil] at h
    rw [substitute_char style (.inr (reference?_of_head (by decide) _))]
    have hblank : isNamePart ' ' = false := by decide
    rw [hblank, h, Option.map_some]
  rw [Style.substituted, htext, substitute_orTransparent style (.inl rfl), substitute_separator,
    substitute_comma style closed_lastStop, hlast, Style.substituted]
  cases substitute style false color.toList with
  | none => rfl
  | some v =>
    simp only [Option.bind_some, Option.map_some, Option.some_inj, ← String.toList_inj, String.toList_ofList,
      String.toList_append, List.append_assoc]
    rfl

theorem substituted_imageText {side : String} (hs : Literal side.toList) :
    style.substituted (imageText side) = some ("linear-gradient(" ++ side ++ ", " ++
      (style "--gradient-stops").getD (orTransparent (style "--gradient-from") ++ ", " ++
        orTransparent (style "--gradient-to")) ++ ")") := by
  let fallback := orTransparentText "--gradient-from" ++ ", " ++ orTransparentText "--gradient-to"
  have hstops : Refers gradientStops "--gradient-stops" (some fallback) := by
    refine ⟨⟨("--gradient-stops, " ++ fallback).toList, ?_, ?_, ?_⟩, by decide⟩
    · decide +kernel
    · decide +kernel
    · decide +kernel
  have hfallback : substitute style false fallback.toList =
      some (orTransparent (style "--gradient-from") ++ ", " ++ orTransparent (style "--gradient-to")).toList := by
    have htext : fallback.toList = (orTransparentText "--gradient-from").toList ++ (", ".toList ++
        ((orTransparentText "--gradient-to").toList ++ [])) := by decide
    rw [htext, substitute_orTransparent style (.inl rfl), substitute_separator,
      substitute_orTransparent style (.inr rfl), substitute_nil]
    simp only [Option.map_some, String.toList_append, List.append_assoc, List.append_nil]
  have hfront : Literal ("linear-gradient(" ++ side ++ ", ").toList := by
    have hlinear : Literal "linear-gradient(".toList := by decide
    have hseparator : Literal ", ".toList := by decide
    rw [String.toList_append, String.toList_append]
    exact (hlinear.append hs).append hseparator
  have hflag : ("linear-gradient(" ++ side ++ ", ").toList.foldl (fun _ c => isNamePart c) false = false := by
    rw [String.toList_append, List.foldl_append]
    have hblank : isNamePart ' ' = false := by decide
    exact hblank
  have htext : (imageText side).toList =
      ("linear-gradient(" ++ side ++ ", ").toList ++ (gradientStops.toList ++ ")".toList) := by
    exact toList_around (List.append_nil _).symm rfl
  rw [Style.substituted, htext, substitute_literal style hfront, hflag, hstops.substitute_or style hfallback,
    substitute_of_literal style (by decide)]
  simp only [Option.map_some, Option.some_inj, ← String.toList_inj, String.toList_ofList, String.toList_append,
    List.append_assoc]

def Stop.declarations (s : Stop palette) : GradientStop → List (String × String)
  | .first => [("--gradient-from", s.color), ("--gradient-to", s.clear), ("--gradient-stops", bothStops)]
  | .middle => [("--gradient-stops", aroundMiddle s.color)]
  | .last => [("--gradient-to", s.color)]

namespace Gradient

variable (g : Gradient palette)

def stops : List (GradientStop × Stop palette) :=
  (g.first.map (GradientStop.first, ·)).toList ++ (g.last.map (GradientStop.last, ·)).toList ++
    (g.middle.map (GradientStop.middle, ·)).toList

def declarations : List (String × String) :=
  ("background-image", imageText g.side) :: g.stops.flatMap fun p => p.2.declarations p.1

def given (property : String) : Option String :=
  if property = "background-image" then some (imageText g.side)
  else if property = "--gradient-from" then g.first.map Stop.color
  else if property = "--gradient-to" then (g.last.map Stop.color).or (g.first.map Stop.clear)
  else if property = "--gradient-stops" then
    (g.middle.map fun s => aroundMiddle s.color).or (g.first.map fun _ => bothStops)
  else none

theorem colon_not_mem : ∀ d ∈ g.declarations, ':' ∉ d.1.toList := by
  have hstop (s : Stop palette) (stop : GradientStop) : ∀ d ∈ s.declarations stop, ':' ∉ d.1.toList := by
    cases stop <;> simp only [Stop.declarations, List.forall_mem_cons, List.not_mem_nil, false_imp_iff,
      implies_true, and_true] <;> decide
  have himage : ':' ∉ "background-image".toList := by decide
  rw [declarations, List.forall_mem_cons]
  refine ⟨himage, ?_⟩
  intro d hd
  obtain ⟨p, _, hd⟩ := List.mem_flatMap.1 hd
  exact hstop p.2 p.1 d hd

theorem declared?_declarations (property : String) :
    declared? (Rule.linesOf g.declarations) property = g.given property := by
  rw [declared?_linesOf g.colon_not_mem, given, declarations, stops]
  by_cases himage : property = "background-image"
  · subst himage
    cases g.first <;> cases g.last <;> cases g.middle <;> rfl
  by_cases hfrom : property = "--gradient-from"
  · subst hfrom
    cases g.first <;> cases g.last <;> cases g.middle <;> rfl
  by_cases hto : property = "--gradient-to"
  · subst hto
    cases g.first <;> cases g.last <;> cases g.middle <;> rfl
  by_cases hstops : property = "--gradient-stops"
  · subst hstops
    cases g.first <;> cases g.last <;> cases g.middle <;> rfl
  · rw [if_neg himage, if_neg hfrom, if_neg hto, if_neg hstops, Option.map_eq_none_iff, List.find?_eq_none]
    simp only [List.mem_reverse, List.forall_mem_cons, List.forall_mem_flatMap, decide_eq_true_eq]
    refine ⟨Ne.symm himage, fun p _ => ?_⟩
    obtain ⟨stop, s⟩ := p
    cases stop <;> simp [Stop.declarations, Ne.symm hfrom, Ne.symm hto, Ne.symm hstops]

def stopsValue : Option String :=
  match g.middle with
  | some s => (s.value outside).map fun v => orTransparent (g.firstValue outside) ++ ", " ++ v ++ ", " ++
      orTransparent (g.lastValue outside)
  | none => (g.firstValue outside).bind fun a => (g.lastValue outside).map fun b => a ++ ", " ++ b

def styleOn (outside : Style) : Style := fun property =>
  if property = "background-image" then some (g.image outside)
  else if property = "--gradient-from" then g.firstValue outside
  else if property = "--gradient-to" then g.lastValue outside
  else if property = "--gradient-stops" then g.stopsValue outside
  else outside property

theorem stopsValue_getD : (g.stopsValue outside).getD (orTransparent (g.firstValue outside) ++ ", " ++
    orTransparent (g.lastValue outside)) = g.colors outside := by
  have htwo (a b : String) : ", ".intercalate ([a] ++ [] ++ [b]) = a ++ ", " ++ b := by
    rw [List.append_nil, List.singleton_append, String.intercalate_cons_cons, String.intercalate_singleton]
  have hthree (a b c : String) : ", ".intercalate ([a] ++ [b] ++ [c]) = a ++ ", " ++ b ++ ", " ++ c := by
    rw [List.append_assoc, List.singleton_append, List.singleton_append, String.intercalate_cons_cons,
      String.intercalate_cons_cons, String.intercalate_singleton]
    simp only [String.append_assoc]
  rw [stopsValue, colors, middleValue]
  cases g.middle with
  | some s =>
    dsimp only [Option.bind_some]
    cases s.value outside with
    | some v => exact (hthree _ _ _).symm
    | none => exact (htwo _ _).symm
  | none =>
    dsimp only [Option.bind_none]
    cases g.firstValue outside with
    | none => exact (htwo _ _).symm
    | some a =>
      cases g.lastValue outside with
      | none => exact (htwo _ _).symm
      | some b => exact (htwo _ _).symm

end Gradient

/-- Nothing outside knows the properties of gradients. -/
def Neutral (outside : Style) : Prop :=
  ∀ name : String, "--gradient-".toList <+: name.toList → outside name = none

def Extends (style outside : Style) : Prop :=
  ∀ name : String, "--".toList <+: name.toList → ¬ "--gradient-".toList <+: name.toList → style name = outside name

theorem literal_transparent : Literal "transparent".toList := by
  decide

theorem literal_rgba (r g b : Nat) : Literal (Color.rgba r g b (.zero false)).toList := by
  have hnumber (n : Nat) : Literal (toString n).toList := by
    intro c hc he
    rw [Nat.toString_eq_repr, Nat.toList_repr] at hc
    have hdigit := Nat.isDigit_of_mem_toDigits (by decide) (by decide) hc
    simp only [List.mem_cons, List.not_mem_nil, or_false] at he
    rcases he with rfl | rfl <;> cases hdigit
  have hopacity : Literal (Color.alphaText (.zero false)).toList := by decide +kernel
  have hseparator : Literal ", ".toList := by decide
  have hopen : Literal "rgba(".toList := by decide
  have hclose : Literal ")".toList := by decide
  simp only [Color.rgba, String.toList_append]
  exact ((((((((hopen.append (hnumber r)).append hseparator).append (hnumber g)).append hseparator).append
    (hnumber b)).append hseparator).append hopacity).append hclose)

theorem literal_transparentStop {color clear : String} (h : Color.transparentStop color = .ok clear) :
    Literal clear.toList := by
  rw [Color.transparentStop, Color.withAlpha] at h
  split at h
  · cases h
    exact literal_rgba _ _ _
  · cases h
    exact literal_rgba _ _ _
  · cases h
  · cases h
    exact literal_transparent

namespace Stop

variable {style outside} (s : Stop palette)

theorem substituted_color (h : Extends style outside) : style.substituted s.color = s.value outside := by
  rw [value, Style.substituted, Style.substituted, substitute_congr false s.color.toList]
  intro name hcustom hname
  apply h name hcustom
  intro hgradient
  exact s.unrelated (hgradient.isInfix.trans hname)

theorem substituted_clear : style.substituted s.clear = some s.clear := by
  have hliteral : Literal s.clear.toList := by
    rw [clear]
    cases hc : Color.transparentStop s.color with
    | error e => exact literal_transparent
    | ok v => exact literal_transparentStop hc
  rw [Style.substituted, substitute_of_literal style hliteral, Option.map_some, String.ofList_toList]

end Stop

namespace Gradient

variable {style outside} (g : Gradient palette)

theorem first_solved (h : Extends style outside) :
    (g.first.map Stop.color).bind style.substituted = g.firstValue outside := by
  rw [firstValue, Option.bind_map]
  congr 1
  funext s
  exact s.substituted_color h

theorem last_solved (h : Extends style outside) :
    ((g.last.map Stop.color).or (g.first.map Stop.clear)).bind style.substituted = g.lastValue outside := by
  rw [lastValue]
  cases g.last with
  | some s => exact s.substituted_color h
  | none =>
    cases g.first with
    | none => rfl
    | some s => exact s.substituted_clear

theorem stops_solved (h : Extends style outside) (hfirst : style "--gradient-from" = g.firstValue outside)
    (hlast : style "--gradient-to" = g.lastValue outside) :
    ((g.middle.map fun s => aroundMiddle s.color).or (g.first.map fun _ => bothStops)).bind style.substituted =
      g.stopsValue outside := by
  rw [stopsValue]
  cases g.middle with
  | some s =>
    dsimp only [Option.map_some, Option.some_or, Option.bind_some]
    rw [substituted_aroundMiddle, s.substituted_color h, hfirst, hlast]
  | none =>
    dsimp only [Option.map_none, Option.none_or]
    have hbound : g.first = none → g.firstValue outside = none := by
      intro he
      rw [firstValue, he]
      rfl
    cases hf : g.first with
    | none =>
      rw [hbound hf]
      rfl
    | some s =>
      dsimp only [Option.map_some, Option.bind_some]
      rw [substituted_bothStops, hfirst, hlast]

theorem literal_side : Literal g.side.toList := by
  have hsides : ∀ e ∈ gradientDirections.entries, Literal e.2.toList := by decide
  exact hsides _ ((gradientDirections.get?_eq_some_iff _ _).1 g.directed)

theorem image_solved (hfirst : style "--gradient-from" = g.firstValue outside)
    (hlast : style "--gradient-to" = g.lastValue outside)
    (hstops : style "--gradient-stops" = g.stopsValue outside) :
    style.substituted (imageText g.side) = some (g.image outside) := by
  rw [substituted_imageText style g.literal_side]
  simp only [hfirst, hlast, hstops]
  rw [stopsValue_getD]
  rfl

def ownProperties : List String :=
  ["background-image", "--gradient-from", "--gradient-to", "--gradient-stops"]

theorem not_own {name : String} (hd : "--".toList <+: name.toList) (hn : ¬ "--gradient-".toList <+: name.toList) :
    name ∉ ownProperties := by
  have hall : ∀ own ∈ ownProperties, "--".toList <+: own.toList → "--gradient-".toList <+: own.toList := by decide
  intro hm
  exact hn (hall name hm hd)

variable {property : String}

theorem given_of_not_own (h : property ∉ ownProperties) : g.given property = none := by
  simp only [ownProperties, List.mem_cons, List.not_mem_nil, or_false, not_or] at h
  rw [given, if_neg h.1, if_neg h.2.1, if_neg h.2.2.1, if_neg h.2.2.2]

theorem styleOn_of_not_own (h : property ∉ ownProperties) : g.styleOn outside property = outside property := by
  simp only [ownProperties, List.mem_cons, List.not_mem_nil, or_false, not_or] at h
  rw [styleOn, if_neg h.1, if_neg h.2.1, if_neg h.2.2.1, if_neg h.2.2.2]

theorem extends_styleOn : Extends (g.styleOn outside) outside :=
  fun _ hd hn => g.styleOn_of_not_own (not_own hd hn)

theorem styleOn_solved (hp : property ∈ ownProperties) :
    (g.given property).bind (g.styleOn outside).substituted = g.styleOn outside property := by
  have hext : Extends (g.styleOn outside) outside := g.extends_styleOn
  have hstops := g.stops_solved hext rfl rfl
  simp only [ownProperties, List.mem_cons, List.not_mem_nil, or_false] at hp
  rcases hp with rfl | rfl | rfl | rfl
  · exact g.image_solved rfl rfl rfl
  · exact g.first_solved hext
  · exact g.last_solved hext
  · exact hstops

theorem agrees_iff_bind {lines : List String} (ho : Neutral outside)
    (hl : ∀ property, declared? lines property = g.given property) :
    Agrees outside lines style ↔
      (∀ property ∈ ownProperties, style property = (g.given property).bind style.substituted) ∧
        ∀ property, property ∉ ownProperties → style property = outside property := by
  have hown : ∀ property ∈ ownProperties, g.given property = none → outside property = none := by
    intro property hp hnone
    have hall : ∀ own ∈ ownProperties, own = "background-image" ∨ "--gradient-".toList <+: own.toList := by decide
    rcases hall property hp with rfl | hgradient
    · cases hnone
    · exact ho property hgradient
  constructor
  · intro h
    constructor
    · intro property hp
      rw [h property, hl]
      cases hg : g.given property with
      | some text => rfl
      | none => exact hown property hp hg
    · intro property hp
      rw [h property, hl, g.given_of_not_own hp]
  · rintro ⟨hbind, hothers⟩ property
    rw [hl]
    by_cases hp : property ∈ ownProperties
    · rw [hbind property hp]
      cases hg : g.given property with
      | some text => rfl
      | none => exact (hown property hp hg).symm
    · rw [hothers property hp, g.given_of_not_own hp]

theorem agrees_iff {lines : List String} (ho : Neutral outside)
    (hl : ∀ property, declared? lines property = g.given property) :
    Agrees outside lines style ↔ style = g.styleOn outside := by
  rw [g.agrees_iff_bind ho hl]
  constructor
  · rintro ⟨hown, hothers⟩
    have hext : Extends style outside := fun name hd hn => hothers name (not_own hd hn)
    -- the ends are settled first: the stops refer to them, and the image to all three
    have hfirst : style "--gradient-from" = g.firstValue outside :=
      (hown _ (by decide)).trans (g.first_solved hext)
    have hlast : style "--gradient-to" = g.lastValue outside :=
      (hown _ (by decide)).trans (g.last_solved hext)
    have hstops : style "--gradient-stops" = g.stopsValue outside :=
      (hown _ (by decide)).trans (g.stops_solved hext hfirst hlast)
    have himage : style "background-image" = some (g.image outside) :=
      (hown _ (by decide)).trans (g.image_solved hfirst hlast hstops)
    funext property
    by_cases hp : property ∈ ownProperties
    · simp only [ownProperties, List.mem_cons, List.not_mem_nil, or_false] at hp
      rcases hp with rfl | rfl | rfl | rfl
      · exact himage
      · exact hfirst
      · exact hlast
      · exact hstops
    · rw [hothers property hp, g.styleOn_of_not_own hp]
  · rintro rfl
    exact ⟨fun property hp => (g.styleOn_solved hp).symm, fun property hp => g.styleOn_of_not_own hp⟩

end Gradient

end UtilityCss.Cascade
