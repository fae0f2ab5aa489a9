import UtilityCss.Calendar
import UtilityCss.Number.Reader
import UtilityCss.Text.Word

namespace UtilityCss.Document.Yaml

open Text Number

inductive Kind where
  | null | bool | int | float | bytes | moment | text
  | list | map | set | pairs
  | merge | equals
  deriving DecidableEq

def coreTags : String :=
  "tag:yaml.org,2002:"

def Kind.names : List (String × Kind) := [
  ("null", .null), ("bool", .bool), ("int", .int), ("float", .float), ("binary", .bytes),
  ("timestamp", .moment), ("str", .text), ("seq", .list), ("map", .map), ("set", .set), ("pairs", .pairs),
  ("omap", .pairs), ("merge", .merge), ("value", .equals)]

def Kind.ofTag? (tag : String) : Option Kind :=
  (names.find? fun p => coreTags ++ p.1 = tag).map Prod.snd

def spellings (w : String) : List String :=
  [w, String.ofList ((w.toList.take 1).map Char.toUpper ++ w.toList.drop 1),
    String.ofList (w.toList.map Char.toUpper)]

def trueWords : List String := ["yes", "true", "on"]

def falseWords : List String := ["no", "false", "off"]

def isDigitOrUnderscore (c : Char) : Bool :=
  isAsciiDigit c || c == '_'

def isRun (p : Char → Bool) (cs : List Char) : Bool :=
  !cs.isEmpty && cs.all p

def isGrouped (first : Char → Bool) : List Char → Bool
  | [] => false
  | c :: r => first c && r.all isDigitOrUnderscore

def isPositiveDigit (c : Char) : Bool :=
  isAsciiDigit c && c != '0'

def isSixtieth : List Char → Bool
  | [d] => isAsciiDigit d
  | [t, d] => '0' ≤ t && t ≤ '5' && isAsciiDigit d
  | _ => false

def unsignedPart (cs : List Char) : List Char :=
  (splitSign cs).2

def isIntText (cs : List Char) : Bool :=
  match unsignedPart cs with
  | '0' :: 'b' :: r => isRun (fun c => c == '0' || c == '1' || c == '_') r
  | '0' :: 'x' :: r => isRun (fun c => isHexDigit c || c == '_') r
  | '0' :: r => r.all fun c => ('0' ≤ c && c ≤ '7') || c == '_'
  | body =>
    match body.splitOn ':' with
    | first :: parts => isGrouped isPositiveDigit first && parts.all isSixtieth
    | [] => false

def isExponent : List Char → Bool
  | [] => true
  | e :: s :: ds => (e == 'e' || e == 'E') && (s == '+' || s == '-') && isRun isAsciiDigit ds
  | _ => false

def isFloatText (cs : List Char) : Bool :=
  let body := unsignedPart cs
  let word := String.ofList body
  match cut? '.' body with
  | none => false
  | some (whole, tail) =>
    let power := isExponent (tail.dropWhile isDigitOrUnderscore)
    if (spellings "inf").contains (String.ofList tail) && whole.isEmpty then true
    else if ["nan", "NaN", "NAN"].contains (String.ofList tail) && whole.isEmpty then
      word.length = cs.length
    else if whole.isEmpty then
      body.length = cs.length && isGrouped isAsciiDigit (tail.takeWhile isDigitOrUnderscore) && power
    else
      match whole.splitOn ':' with
      | [w] => isGrouped isAsciiDigit w && power
      | w :: parts => isGrouped isAsciiDigit w && parts.all isSixtieth && tail.all isDigitOrUnderscore
      | [] => false

def shortNumber? (cs : List Char) : Option (Nat × List Char) :=
  let ds := (cs.take 2).takeWhile isAsciiDigit
  if ds.isEmpty then none else some (ofDecimalDigits ds, cs.drop ds.length)

def twoDigits? (cs : List Char) : Option (Nat × List Char) :=
  let ds := cs.take 2
  if ds.length = 2 && ds.all isAsciiDigit then some (ofDecimalDigits ds, cs.drop 2) else none

def zone? (cs : List Char) : Option (Option Int) :=
  match cs.dropWhile fun c => c == ' ' || c == '\t' with
  | [] => if cs.isEmpty then some none else none
  | ['Z'] => some (some 0)
  | sign :: r =>
    if sign = '+' || sign = '-' then do
      let (h, r) ← shortNumber? r
      let m ← match r with
        | [] => some 0
        | ':' :: r => match twoDigits? r with
          | some (m, []) => some m
          | _ => none
        | _ => none
      some (some (Binary64.signed (sign = '-') ((h * 60 + m) * 60)))
    else none

def instant? (y m d : Nat) (cs : List Char) : Option Moment := do
  let t ← match cs with
    | 'T' :: r => some r
    | 't' :: r => some r
    | c :: _ => if c = ' ' || c = '\t' then some (cs.dropWhile fun c => c == ' ' || c == '\t') else none
    | [] => none
  let (h, r) ← shortNumber? t
  let (n, r) ← twoDigits? (← after? [':'] r)
  let (s, r) ← twoDigits? (← after? [':'] r)
  let ds := match r with
    | '.' :: f => f.takeWhile isAsciiDigit
    | _ => []
  let rest := match r with
    | '.' :: f => f.dropWhile isAsciiDigit
    | _ => r
  let six := ds.take 6
  let zone ← zone? rest
  some (.instant y m d h n s (ofDecimalDigits (six ++ List.replicate (6 - six.length) '0')) zone)

def moment? (text : List Char) : Option Moment := do
  let cs := dropFinalNewline text
  let year := cs.take 4
  if !(year.length = 4 && year.all isAsciiDigit) then none
  let y := ofDecimalDigits year
  let (m, r) ← shortNumber? (← after? ['-'] (cs.drop 4))
  let (d, r) ← shortNumber? (← after? ['-'] r)
  if r.isEmpty then some (.day y m d) else instant? y m d r

def isMomentText (cs : List Char) : Bool :=
  match moment? cs with
  | some (.day ..) => cs.length = 10
  | some _ => true
  | none => false

def Kind.ofText (text : List Char) : Kind :=
  let cs := dropFinalNewline text
  let s := String.ofList cs
  if text.isEmpty then .null
  else if s = "~" || (spellings "null").contains s then .null
  else if (trueWords ++ falseWords).any fun w => (spellings w).contains s then .bool
  else if isFloatText cs then .float
  else if isIntText cs then .int
  else if s = "<<" then .merge
  else if isMomentText cs then .moment
  else if s = "=" then .equals
  else .text

end UtilityCss.Document.Yaml
