import UtilityCss.Datum
import UtilityCss.Document.Flaw
import UtilityCss.Number.Reader
import UtilityCss.Text.Word

namespace UtilityCss.Document.Json

open Text Reader

def isSpace (c : Char) : Bool :=
  c == ' ' || c == '\t' || c == '\n' || c == '\r'

def skipSpace : Reader Unit :=
  skip isSpace

def simpleEscapes : List (Char × Char) :=
  [('"', '"'), ('\\', '\\'), ('/', '/'), ('b', '\x08'), ('f', '\x0c'), ('n', '\n'), ('r', '\r'), ('t', '\t')]

def units? : List Char → Option (List Nat × List Char)
  | [] => none
  | '"' :: r => some ([], r)
  | '\\' :: 'u' :: a :: b :: c :: d :: r =>
    if [a, b, c, d].all isHexDigit then
      (units? r).map fun p => (ofDigitValues 16 ([a, b, c, d].map hexValue) :: p.1, p.2)
    else none
  | '\\' :: e :: r =>
    match simpleEscapes.find? (·.1 == e) with
    | some p => (units? r).map fun q => (p.2.toNat :: q.1, q.2)
    | none => none
  | c :: r => if c.toNat < 0x20 || c = '\\' then none else (units? r).map fun p => (c.toNat :: p.1, p.2)

def isHighHalf (n : Nat) : Bool :=
  0xD800 ≤ n && n < 0xDC00

def isLowHalf (n : Nat) : Bool :=
  0xDC00 ≤ n && n < 0xE000

def joinHalves : List Nat → List Nat
  | [] => []
  | [n] => [n]
  | h :: l :: r =>
    if isHighHalf h && isLowHalf l then
      (0x10000 + (h - 0xD800) * 0x400 + (l - 0xDC00)) :: joinHalves r
    else h :: joinHalves (l :: r)

def text : Reader Scalar := do
  return .ofCodes (joinHalves (← cut units?))

def wholeDigits? (cs : List Char) : Option (List Char × List Char) :=
  match cs with
  | '0' :: r => some (['0'], r)
  | c :: _ => if isAsciiDigit c then some (cs.takeWhile isAsciiDigit, cs.dropWhile isAsciiDigit) else none
  | [] => none

def fraction (cs : List Char) : List Char × List Char :=
  match cs with
  | '.' :: c :: r =>
    if isAsciiDigit c then ('.' :: (c :: r).takeWhile isAsciiDigit, (c :: r).dropWhile isAsciiDigit)
    else ([], cs)
  | _ => ([], cs)

def exponent (cs : List Char) : List Char × List Char :=
  match cs with
  | e :: r =>
    let sign := match r with
      | s :: _ => if s = '+' || s = '-' then [s] else []
      | [] => []
    let ds := (r.drop sign.length).takeWhile isAsciiDigit
    if (e = 'e' || e = 'E') && !ds.isEmpty then
      (e :: sign ++ ds, r.drop (sign.length + ds.length))
    else ([], cs)
  | [] => ([], cs)

def number : Reader Scalar := do
  let sign : List Char := if ← accept ['-'] then ['-'] else []
  let whole ← cut wholeDigits?
  let tail := fraction (← get)
  let power := exponent tail.2
  set power.2
  if tail.1.isEmpty && power.1.isEmpty then
    if digitLimit < whole.length then throw (.value (.tooManyDigits whole.length))
    return .int (Number.Binary64.signed (!sign.isEmpty) (ofDecimalDigits whole))
  else
    match Number.Binary64.ofText? (sign ++ whole ++ tail.1 ++ power.1) with
    | some x => return .float x
    | none => malformed

def constants : List (List Char × Scalar) := [
  (['n', 'u', 'l', 'l'], .null), (['t', 'r', 'u', 'e'], .bool true),
  (['f', 'a', 'l', 's', 'e'], .bool false), (['N', 'a', 'N'], .float .nan),
  (['I', 'n', 'f', 'i', 'n', 'i', 't', 'y'], .float (.infinite false)),
  (['-', 'I', 'n', 'f', 'i', 'n', 'i', 't', 'y'], .float (.infinite true))]

def bare : Reader Scalar := do
  match constants.find? (·.1.isPrefixOf (← get)) with
  | some (name, s) => drop name.length; return s
  | none => number

mutual

/-- A value that starts here, with room for so many collections inside each other. The last argument bounds
the count of values and separators to come. -/
def value (room : Nat) : Nat → Reader Datum
  | 0 => malformed
  | fuel + 1 => do
    match ← next? with
    | some '"' => drop 1; return .scalar (← text)
    | some '\x7b' =>
      let room ← deeper .jsonObjects 1 room
      drop 1; skipSpace
      if ← accept ['\x7d'] then return .map []
      return .mapOf (← members room fuel)
    | some '[' =>
      let room ← deeper .jsonLists 1 room
      drop 1; skipSpace
      if ← accept [']'] then return .list []
      return .list (← items room fuel)
    | _ => return .scalar (← bare)

def items (room : Nat) : Nat → Reader (List Datum)
  | 0 => malformed
  | fuel + 1 => do
    let d ← value room fuel
    skipSpace
    if ← accept [']'] then return [d]
    require [',']
    skipSpace
    return d :: (← items room fuel)

def members (room : Nat) : Nat → Reader (List (Scalar × Datum))
  | 0 => malformed
  | fuel + 1 => do
    require ['"']
    let key ← text
    skipSpace
    require [':']
    skipSpace
    let d ← value room fuel
    skipSpace
    if ← accept ['\x7d'] then return [(key, d)]
    require [',']
    skipSpace
    return (key, d) :: (← members room fuel)

end

def document (room bound : Nat) : Reader Datum := do
  skipSpace
  let d ← value room bound
  skipSpace
  match ← next? with
  | some _ => malformed
  | none => return d

def read (room : Nat) (cs : List Char) : Except Flaw Datum :=
  (document room (2 * cs.length + 2) cs).map Prod.fst

end UtilityCss.Document.Json
