import UtilityCss.Fault
import UtilityCss.Number.Printer
import UtilityCss.Number.Reader

namespace UtilityCss.Value

open Text Number

def bracket? (key : String) : Option String :=
  let cs := key.toList
  if 2 < cs.length && cs.head? = some '[' && cs.getLast? = some ']' then
    some (String.ofList (replaceChar '_' [' '] (cs.drop 1).dropLast))
  else none

def whole (cs : List Char) : Except Fault Nat :=
  let digits := (cs.takeWhile isDecimalDigit).length
  if digitLimit < digits then .error (.tooManyDigits digits)
  else if digits = cs.length then .ok (ofDecimalDigits cs)
  else .error (.notAnInteger 10 (String.ofList cs))

def isPositive (key : String) : Except Fault Bool :=
  if isDigitText key.toList then (whole key.toList).map (0 < ·) else .ok false

def fractionSides? (cs : List Char) : Option (List Char × List Char) :=
  match cut? '/' (dropFinalNewline cs) with
  | some (n, d) =>
    if !n.isEmpty && n.all isDecimalDigit && !d.isEmpty && d.all isDecimalDigit then some (n, d) else none
  | none => none

def percent (n d : Nat) : Except Fault String :=
  match Binary64.ofRatio false (n, d) with
  | .infinite _ => .error .quotientTooLarge
  | q =>
    let ds := trimZeros (fixed 6 (q.scale (100, 1)))
    .ok (String.ofList ((if ds.getLast? = some '.' then ds.dropLast else ds) ++ ['%']))

def fraction? (key : String) : Except Fault (Option String) :=
  match fractionSides? key.toList with
  | none => .ok none
  | some (n, d) => do
    let n ← whole n
    let d ← whole d
    if d = 0 then return none
    return some (← percent n d)

def numberText (x : Binary64) : String :=
  String.ofList (general (x.roundPlaces 6))

def lengthUnits : List String :=
  ["px", "rem", "em", "%", "vh", "vw", "ch", "ex", "vmin", "vmax", "dvh", "svh", "lvh"]

def signedUnits : List String :=
  lengthUnits ++ ["deg", "ms", "s"]

def measure? (value : String) : Option (List Char × String) :=
  (numeral? (dropFinalNewline value.toList)).map fun p => (p.1, String.ofList p.2)

def isLength (value : String) : Bool :=
  match measure? value with
  | some (_, unit) => lengthUnits.contains unit
  | none => false

/-- The value with a minus sign, if it is a number or a measure and not zero; else the value itself. -/
def negate (value : String) : String :=
  match measure? value with
  | some (number, unit) =>
    if (unit.isEmpty || signedUnits.contains unit) && !(Binary64.ofNumeral number).isZero then
      "-" ++ value
    else value
  | none => value

def colorMarks : List String :=
  ["#", "rgb", "hsl", "oklch", "var("]

def isColor (value : String) : Bool :=
  colorMarks.any fun m => (after? m.toList value.toList).isSome

end UtilityCss.Value
