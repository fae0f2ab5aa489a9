import UtilityCss.Color.Hex
import UtilityCss.Number.Reader
import UtilityCss.Theme.Basic

namespace UtilityCss

open Text Number

def defaultShade : String := "500"

def shadeName (scale shade : String) : String :=
  scale ++ "-" ++ shade

abbrev Palette (κ : Type) := Table κ String

namespace Palette

def ofLeaves {κ : Type} [DecidableEq κ] (leaves aliases : List (κ × String)) : Palette κ :=
  aliases.foldl (fun t e => if t.contains e.1 then t else t.insert e.1 e.2) (.ofList leaves)

def leaves (name : String) : Color → List (String × String)
  | .flat v => [(name, v)]
  | .scale shades => shades.entries.map fun s => (shadeName name s.1, s.2)

def alias? (name : String) : Color → Option (String × String)
  | .flat _ => none
  | .scale shades => (shades.get? defaultShade).map (name, ·)

def flatten (colors : List (String × Color)) : Palette String :=
  ofLeaves (colors.flatMap fun e => leaves e.1 e.2) (colors.filterMap fun e => alias? e.1 e.2)

def ofTheme (theme : Theme) : Palette String :=
  flatten theme.colors.entries

def opacity? (suffix : List Char) : Option Binary64 :=
  (Binary64.ofText? suffix).bind fun percent =>
    if (Binary64.zero false).le percent && percent.le (.ofNat 100) then some (percent.scale (1, 100))
    else none

def base? (p : Palette String) (name : String) : Option String :=
  match p.get? name with
  | some v => if v.isEmpty then p.get? (shadeName name defaultShade) else some v
  | none => p.get? (shadeName name defaultShade)

def resolve (p : Palette String) (key : String) : Except Fault (Option String) :=
  let cs := key.toList
  if cs.isEmpty then .ok none
  else if cs.head? = some '[' && cs.getLast? = some ']' then
    let literal := replaceChar '_' [' '] (cs.drop 1).dropLast
    .ok (if literal.isEmpty then none else some (String.ofList literal))
  else if p.contains key then .ok (p.get? key)
  else
    match cut? '/' cs with
    | none => .ok none
    | some (name, suffix) =>
      match p.base? (String.ofList name), opacity? suffix with
      | some color, some alpha => Color.withAlpha color alpha
      | _, _ => .ok none

end Palette

namespace Datum

/-- A name in the palette of unchecked data. The mark tells apart the keys that are no number, which
differ from each other. -/
structure ColorKey where
  scalar : Scalar
  mark : Nat
  deriving DecidableEq

def ColorKey.text (s : String) : ColorKey :=
  ⟨.text s, 0⟩

def ColorKey.at (k : Scalar) (place : Nat) : ColorKey :=
  ⟨k, if k = .float .nan then place else 0⟩

def colorLeaves (key : ColorKey) : Datum → List (ColorKey × String)
  | map shades => shades.map fun s => (.text (shadeName key.scalar.toText s.1.toText), s.2.toText)
  | d => [(key, d.toText)]

def colorAlias? (key : ColorKey) : Datum → Option (ColorKey × String)
  | map shades => (field? defaultShade shades).map fun d => (key, d.toText)
  | _ => none

def palette : Datum → Palette ColorKey
  | map colors =>
    let colors := colors.zipIdx.map fun e => (ColorKey.at e.1.1 e.2, e.1.2)
    .ofLeaves (colors.flatMap fun e => colorLeaves e.1 e.2)
      (colors.filterMap fun e => colorAlias? e.1 e.2)
  | _ => .empty

end Datum

def Palette.named (p : Palette Datum.ColorKey) : Palette String :=
  .ofList (p.entries.filterMap fun e =>
    match e.1.scalar with
    | .text s => some (s, e.2)
    | _ => none)

end UtilityCss
