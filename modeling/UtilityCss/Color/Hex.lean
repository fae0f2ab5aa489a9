import UtilityCss.Fault
import UtilityCss.Number.Printer
import UtilityCss.Text.Cut
import UtilityCss.Text.Digit

namespace UtilityCss.Color

open Text Number

def hexDigits? (value : List Char) : Option (List Char) :=
  match value with
  | '#' :: r =>
    let ds := dropFinalNewline r
    if ds.all isHexDigit && (ds.length == 3 || ds.length == 6) then some r else none
  | _ => none

def isHex (value : String) : Bool :=
  (hexDigits? value.toList).isSome

def alphaText (alpha : Binary64) : String :=
  String.ofList (general (alpha.roundPlaces 4))

def channel (high low : Char) : Nat :=
  hexValue high * 16 + hexValue low

def rgba (r g b : Nat) (alpha : Binary64) : String :=
  "rgba(" ++ toString r ++ ", " ++ toString g ++ ", " ++ toString b ++ ", " ++ alphaText alpha ++ ")"

/-- The colour with an opacity, if it is hexadecimal. A line feed after six digits is let be, but after
three it takes the place of digits, and the last channel is left without any. -/
def withAlpha (value : String) (alpha : Binary64) : Except Fault (Option String) :=
  match hexDigits? value.toList with
  | some [r, g, b] => .ok (some (rgba (channel r r) (channel g g) (channel b b) alpha))
  | some (r :: r' :: g :: g' :: b :: b' :: _) =>
    .ok (some (rgba (channel r r') (channel g g') (channel b b') alpha))
  | some _ => .error (.notAnInteger 16 "")
  | none => .ok none

def transparentStop (value : String) : Except Fault String :=
  (withAlpha value (Binary64.zero false)).map (·.getD "transparent")

end UtilityCss.Color
