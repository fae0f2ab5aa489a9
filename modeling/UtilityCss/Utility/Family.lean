import UtilityCss.Color.Palette
import UtilityCss.Utility.Entry
import UtilityCss.Utility.Value

/-!
Families of utilities: each gives a meaning to the value part of a class name, such as the `4` of `mt-4`.
-/

namespace UtilityCss

open Text Number Value

/-- What a family says of a value: declarations, the selector they need in place of the class itself,
and whether a sign on the class changes them. -/
structure Resolution where
  declarations : List (String × String)
  selector : Option String
  negatable : Bool

namespace Resolution

def signed (ds : List (String × String)) : Resolution := ⟨ds, none, true⟩

def unsigned (ds : List (String × String)) : Resolution := ⟨ds, none, false⟩

end Resolution

inductive GradientStop where
  | first | middle | last
  deriving DecidableEq

def GradientStop.ofName (name : String) : Except Fault GradientStop :=
  if name = "from" then .ok first
  else if name = "via" then .ok middle
  else if name = "to" then .ok last
  else .error (.unknownStop name)

inductive Family where
  | spacing (group : PropertyGroup)
  | spaceBetween (property : String)
  | zIndex
  | opacity
  | aspectRatio
  | gridColumns
  | columnSpan
  | text
  | background
  | gradientDirection
  | gradientStop (stop : GradientStop)
  | border
  | radius (corners : List String)
  | shadow
  | scale
  | backdropBlur
  | transition
  | timing (property : String)
  | ease

structure Surroundings where
  theme : Theme
  palette : Palette String

def Surroundings.ofTheme (theme : Theme) : Surroundings :=
  ⟨theme, .ofTheme theme⟩

namespace Family

variable (at_ : Surroundings) (key : String)

def laterChildren : String := "& > * + *"

def gradientStops : String :=
  "var(--gradient-stops, var(--gradient-from, transparent), var(--gradient-to, transparent))"

def gradientDirections : Table String String := .ofList [
  ("t", "to top"), ("tr", "to top right"), ("r", "to right"), ("br", "to bottom right"),
  ("b", "to bottom"), ("bl", "to bottom left"), ("l", "to left"), ("tl", "to top left")]

def borderSides : Table String (List String) := .ofList [
  ("t", ["border-top-width"]), ("r", ["border-right-width"]), ("b", ["border-bottom-width"]),
  ("l", ["border-left-width"]), ("x", ["border-left-width", "border-right-width"]),
  ("y", ["border-top-width", "border-bottom-width"])]

def borderStyles : List String :=
  ["solid", "dashed", "dotted", "double", "hidden", "none"]

def blurSizes : Table String String := .ofList [
  ("none", "0"), ("sm", "4px"), ("", "8px"), ("md", "12px"), ("lg", "16px"), ("xl", "24px"),
  ("2xl", "40px"), ("3xl", "64px")]

def transitionProperties : Table String String := .ofList [
  ("all", "all"),
  ("colors", "color, background-color, border-color, text-decoration-color, fill, stroke"),
  ("opacity", "opacity"), ("shadow", "box-shadow"), ("transform", "transform")]

def timingFunctions : Table String String := .ofList [
  ("linear", "linear"), ("in", "cubic-bezier(0.4, 0, 1, 1)"), ("out", "cubic-bezier(0, 0, 0.2, 1)"),
  ("in-out", "cubic-bezier(0.4, 0, 0.2, 1)")]

def defaultTiming : String := "cubic-bezier(0.4, 0, 0.2, 1)"

def defaultDuration : String := "150ms"

def aspectRatios : Table String String := .ofList [
  ("auto", "auto"), ("square", "1 / 1"), ("video", "16 / 9")]

def backgroundKeywords : Table String (String × String) := .ofList [
  ("none", ("background-image", "none")), ("cover", ("background-size", "cover")),
  ("contain", ("background-size", "contain")), ("center", ("background-position", "center")),
  ("no-repeat", ("background-repeat", "no-repeat"))]

def defaultRadius : String := "0.25rem"

def bareKey : String := "DEFAULT"

def bareShadow : String := "md"

def one (property : String) (negatable : Bool) (value : Option String) : Option Resolution :=
  value.map fun v => ⟨[(property, v)], none, negatable⟩

def colored (property : String) : Except Fault (Option Resolution) :=
  (at_.palette.resolve key).map (one property false)

def percentOf (key : String) : String :=
  numberText ((Binary64.ofNumeral key.toList).scale (1, 100))

def themed (group : PropertyGroup) : Except Fault (Option String) :=
  match group.lookup with
  | none => .ok none
  | some name =>
    match Category.ofName? name with
    | some c => .ok (((at_.theme.category c).get? key).map Color.toText)
    | none => .error (.unknownCategory name)

def spacingValue (group : PropertyGroup) : Except Fault (Option String) := do
  if let some v := bracket? key then return some v
  if let some v ← themed at_ key group then return some v
  if let some v := group.keywords.get? key then return some v
  if let some v := at_.theme.spacing.get? key then return some v
  if let some v ← fraction? key then return some v
  return if key = "0" || isLength key then some key else none

def opacityValue : Option String :=
  match bracket? key with
  | some v => some v
  | none =>
    if isNumeral key.toList && (Binary64.ofNumeral key.toList).le (.ofNat 100) then some (percentOf key)
    else none

def columnsValue : Except Fault (Option String) := do
  if let some v := bracket? key then return some v
  if key = "none" then return some "none"
  return if ← isPositive key then some ("repeat(" ++ key ++ ", minmax(0, 1fr))") else none

def spanValue : Except Fault (Option String) := do
  if key = "full" then return some "1 / -1"
  return if ← isPositive key then some ("span " ++ key ++ " / span " ++ key) else none

def resolveText : Except Fault (Option Resolution) :=
  match (bracket? key).filter (!isColor ·) with
  | some v => .ok (some (.signed [("font-size", v)]))
  | none =>
    match at_.theme.fontSize.get? key with
    | some v => .ok (some (.signed [("font-size", v)]))
    | none => colored at_ key "color"

def stopDeclarations (color : String) : GradientStop → Except Fault (List (String × String))
  | .first => do
    let clear ← Color.transparentStop color
    return [("--gradient-from", color), ("--gradient-to", clear),
      ("--gradient-stops", "var(--gradient-from), var(--gradient-to)")]
  | .middle => .ok [("--gradient-stops",
      "var(--gradient-from, transparent), " ++ color ++ ", var(--gradient-to, transparent)")]
  | .last => .ok [("--gradient-to", color)]

def borderWidth? (key : String) : Option String :=
  match bracket? key with
  | some v => some v
  | none => if isDigitText key.toList then some (key ++ "px") else none

def side? : Option (List String × String) :=
  let (side, width) := match cut? '-' key.toList with
    | some (side, width) => (String.ofList side, String.ofList width)
    | none => (key, "")
  (borderSides.get? side).map (·, width)

def sideWidth? (width : String) : Option String :=
  if width.isEmpty then some "1px" else borderWidth? width

def resolveBorder : Except Fault (Option Resolution) := do
  if let some v := (bracket? key).filter isColor then return some (.unsigned [("border-color", v)])
  if (bracket? key).isNone then
    if let some v ← at_.palette.resolve key then return some (.unsigned [("border-color", v)])
  match side? key with
  | some (properties, width) => return (sideWidth? width).map fun v => .unsigned (properties.map (·, v))
  | none =>
    if borderStyles.contains key then return some (.unsigned [("border-style", key)])
    return one "border-width" false (borderWidth? key)

def radiusValue : Option String :=
  let radii := at_.theme.borderRadius
  if key.isEmpty then some ((radii.get? bareKey).getD defaultRadius)
  else match bracket? key with
  | some v => some v
  | none => match radii.get? key with
    | some v => some v
    | none =>
      if isNumeral key.toList then
        some (numberText ((Binary64.ofNumeral key.toList).scale (1, 8)) ++ "rem")
      else none

def shadowValue : Option String :=
  let shadows := at_.theme.shadows
  if key.isEmpty then
    match (shadows.get? bareKey).filter (!·.isEmpty) with
    | some v => some v
    | none => shadows.get? bareShadow
  else (bracket? key).or (shadows.get? key)

def scaleFactor : Option String :=
  match bracket? key with
  | some v => some v
  | none => if isNumeral key.toList then some (percentOf key) else none

def durationValue : Option String :=
  match bracket? key with
  | some v => some v
  | none => if isDigitText key.toList then some (key ++ "ms") else none

def indexValue : Option String :=
  match bracket? key with
  | some v => some v
  | none => if key = "auto" || isDigitText key.toList then some key else none

def blur (radius : String) : Resolution :=
  let v := "blur(" ++ radius ++ ")"
  .unsigned [("backdrop-filter", v), ("-webkit-backdrop-filter", v)]

def resolveTransition : Option Resolution :=
  if key = "none" then some (.unsigned [("transition-property", "none")])
  else (transitionProperties.get? key).map fun properties =>
    .unsigned [("transition-property", properties), ("transition-timing-function", defaultTiming),
      ("transition-duration", defaultDuration)]

def resolve (family : Family) (negated : Bool) : Except Fault (Option Resolution) :=
  match family with
  | spacing group =>
    if key.isEmpty then .ok none
    else (spacingValue at_ key group).map fun v =>
      v.map fun v => .signed (group.properties.map (·, v))
  | spaceBetween property =>
    .ok (((bracket? key).or (at_.theme.spacing.get? key)).map fun v =>
      ⟨[(property, v)], some laterChildren, true⟩)
  | zIndex => .ok (one "z-index" true (indexValue key))
  | opacity => .ok (one "opacity" false (opacityValue key))
  | aspectRatio => .ok (one "aspect-ratio" false ((bracket? key).or (aspectRatios.get? key)))
  | gridColumns => (columnsValue key).map (one "grid-template-columns" false)
  | columnSpan => (spanValue key).map (one "grid-column" false)
  | text => resolveText at_ key
  | background =>
    match backgroundKeywords.get? key with
    | some d => .ok (some (.unsigned [d]))
    | none => colored at_ key "background-color"
  | gradientDirection =>
    .ok ((gradientDirections.get? key).map fun direction =>
      .unsigned [("background-image", "linear-gradient(" ++ direction ++ ", " ++ gradientStops ++ ")")])
  | gradientStop stop => do
    match ← at_.palette.resolve key with
    | none => return none
    | some color => return some (.unsigned (← stopDeclarations color stop))
  | border => resolveBorder at_ key
  | radius corners =>
    .ok ((radiusValue at_ key).map fun v => .unsigned (corners.map (·, v)))
  | shadow => .ok (one "box-shadow" false (shadowValue at_ key))
  | scale =>
    .ok ((scaleFactor key).map fun f =>
      .unsigned [("transform", "scale(" ++ (if negated then negate f else f) ++ ")")])
  | backdropBlur => .ok (((bracket? key).or (blurSizes.get? key)).map blur)
  | transition => .ok (resolveTransition key)
  | timing property => .ok (one property false (durationValue key))
  | ease => .ok (one "transition-timing-function" false ((bracket? key).or (timingFunctions.get? key)))

end Family

end UtilityCss
