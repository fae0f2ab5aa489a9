import UtilityCss.Calendar
import UtilityCss.Datum
import UtilityCss.Document.Flaw
import UtilityCss.Number.Reader
import UtilityCss.Text.Word

namespace UtilityCss.Document.Toml

open Text Reader

def isSpace (c : Char) : Bool :=
  c == ' ' || c == '\t'

def isSpaceOrBreak (c : Char) : Bool :=
  isSpace c || c == '\n'

def isControl (c : Char) : Bool :=
  (c.toNat < 0x20 || c.toNat == 0x7F) && c != '\t'

def isControlInLines (c : Char) : Bool :=
  isControl c && c != '\n'

def skipSpace : Reader Unit :=
  skip isSpace

def skipComment : Reader Unit := do
  if ← accept ['#'] then
    let body ← run (· != '\n')
    if body.any isControl then malformed

def skipLines : Nat → Reader Unit
  | 0 => return
  | fuel + 1 => do
    skip isSpaceOrBreak
    if ← startsWith ['#'] then skipComment; skipLines fuel

def skipBetween : Reader Unit := do
  skipLines ((← get).length + 1)

def simpleEscapes : List (Char × Char) :=
  [('b', '\x08'), ('t', '\t'), ('n', '\n'), ('f', '\x0c'), ('r', '\r'), ('"', '"'), ('\\', '\\')]

def hexChar? (count : Nat) (cs : List Char) : Option (Char × List Char) :=
  let ds := cs.take count
  let n := ofDigitValues 16 (ds.map hexValue)
  if ds.length = count && ds.all isHexDigit && n.isValidChar then some (Char.ofNat n, cs.drop count)
  else none

def escaped? (cs : List Char) : Option (Char × List Char) :=
  match cs with
  | 'u' :: r => hexChar? 4 r
  | 'U' :: r => hexChar? 8 r
  | e :: r => (simpleEscapes.find? (·.1 == e)).map fun p => (p.2, r)
  | [] => none

def continued? (cs : List Char) : Option (List Char) :=
  match cs.dropWhile isSpace with
  | '\n' :: r => some (r.dropWhile isSpaceOrBreak)
  | [] => if cs.isEmpty then none else some []
  | _ => none

def basicBody? (lines : Bool) : Nat → List Char → Option (List Char × List Char)
  | 0, _ => none
  | fuel + 1, cs =>
    match cs with
    | [] => none
    | '"' :: r =>
      if !lines then some ([], r)
      else if ['"', '"'].isPrefixOf r then some ([], r.drop 2)
      else (basicBody? lines fuel r).map fun p => ('"' :: p.1, p.2)
    | '\\' :: r =>
      match (if lines then continued? r else none) with
      | some rest => basicBody? lines fuel rest
      | none => (escaped? r).bind fun e => (basicBody? lines fuel e.2).map fun p => (e.1 :: p.1, p.2)
    | c :: r =>
      if (if lines then isControlInLines c else isControl c) then none
      else (basicBody? lines fuel r).map fun p => (c :: p.1, p.2)

def basic (lines : Bool) : Reader (List Char) :=
  cut fun cs => basicBody? lines (cs.length + 1) cs

def literalBody? (close : List Char) (bad : Char → Bool) : List Char → Option (List Char × List Char)
  | [] => none
  | c :: r =>
    if close.isPrefixOf (c :: r) then some ([], (c :: r).drop close.length)
    else if bad c then none
    else (literalBody? close bad r).map fun p => (c :: p.1, p.2)

def extraQuotes (q : Char) : Reader (List Char) := do
  unless ← accept [q] do return []
  return if ← accept [q] then [q, q] else [q]

def multiline (q : Char) (body : Reader (List Char)) : Reader (List Char) := do
  discard (accept ['\n'])
  return (← body) ++ (← extraQuotes q)

def quotedLine : Reader (List Char) := do
  if ← accept ['"'] then basic false
  else
    require ['\'']
    cut (literalBody? ['\''] isControl)

def quotedText : Reader (List Char) := do
  if ← accept ['"', '"', '"'] then multiline '"' (basic true)
  else if ← accept ['\'', '\'', '\''] then
    multiline '\'' (cut (literalBody? ['\'', '\'', '\''] isControlInLines))
  else quotedLine

def keyPart : Reader String := do
  let name ← run isNameChar
  if name.isEmpty then return String.ofList (← quotedLine) else return String.ofList name

def moreParts : Nat → Reader (List String)
  | 0 => malformed
  | fuel + 1 => do
    skipSpace
    unless ← accept ['.'] do return []
    skipSpace
    return (← keyPart) :: (← moreParts fuel)

def key : Reader (List String) := do
  return (← keyPart) :: (← moreParts ((← get).length + 1))

def digits? (count : Nat) (cs : List Char) : Option (Nat × List Char) :=
  let ds := cs.take count
  if ds.length = count && ds.all isAsciiDigit then some (ofDecimalDigits ds, cs.drop count) else none

def day? (cs : List Char) : Option ((Nat × Nat × Nat) × List Char) := do
  let (y, r) ← digits? 4 cs
  let (m, r) ← digits? 2 (← after? ['-'] r)
  let (d, r) ← digits? 2 (← after? ['-'] r)
  if 1 ≤ m && m ≤ 12 && 1 ≤ d && d ≤ 31 then some ((y, m, d), r) else none

def micros (ds : List Char) : Nat :=
  let six := ds.take 6
  ofDecimalDigits (six ++ List.replicate (6 - six.length) '0')

def clock? (cs : List Char) : Option ((Nat × Nat × Nat × Nat) × List Char) := do
  let (h, r) ← digits? 2 cs
  let (m, r) ← digits? 2 (← after? [':'] r)
  let (s, r) ← digits? 2 (← after? [':'] r)
  if 23 < h || 59 < m || 59 < s then none
  else
    match r with
    | '.' :: f =>
      let ds := f.takeWhile isAsciiDigit
      if ds.isEmpty then some ((h, m, s, 0), r) else some ((h, m, s, micros ds), f.drop ds.length)
    | _ => some ((h, m, s, 0), r)

def offset (cs : List Char) : Option Int × List Char :=
  let far : Option (Int × List Char) := do
    let sign ← cs.head?
    let (h, r) ← digits? 2 (cs.drop 1)
    let (m, r) ← digits? 2 (← after? [':'] r)
    if (sign = '+' || sign = '-') && h ≤ 23 && m ≤ 59 then
      some (Number.Binary64.signed (sign = '-') ((h * 60 + m) * 60), r)
    else none
  match cs, far with
  | 'Z' :: r, _ => (some 0, r)
  | 'z' :: r, _ => (some 0, r)
  | _, some (o, r) => (some o, r)
  | _, none => (none, cs)

def moment? (cs : List Char) : Option (Moment × List Char) :=
  match day? cs with
  | some ((y, m, d), r) =>
    match r with
    | mark :: t =>
      match (if mark = 'T' || mark = 't' || mark = ' ' then clock? t else none) with
      | some ((h, n, s, us), u) =>
        let (o, rest) := offset u
        some (.instant y m d h n s us o, rest)
      | none => some (.day y m d, r)
    | [] => some (.day y m d, r)
  | none => (clock? cs).map fun p => (.clock p.1.1 p.1.2.1 p.1.2.2.1 p.1.2.2.2, p.2)

def groupedBody (isDigit : Char → Bool) : List Char → List Char × List Char
  | '_' :: d :: r =>
    if isDigit d then let p := groupedBody isDigit r; (d :: p.1, p.2) else ([], '_' :: d :: r)
  | d :: r => if isDigit d then let p := groupedBody isDigit r; (d :: p.1, p.2) else ([], d :: r)
  | [] => ([], [])

def grouped? (isDigit : Char → Bool) (cs : List Char) : Option (List Char × List Char) :=
  if cs.head?.any isDigit then some (groupedBody isDigit cs) else none

def isBinaryDigit (c : Char) : Bool :=
  c == '0' || c == '1'

def isOctalDigit (c : Char) : Bool :=
  '0' ≤ c && c ≤ '7'

def bases : List (Char × Nat × (Char → Bool)) :=
  [('x', 16, isHexDigit), ('b', 2, isBinaryDigit), ('o', 8, isOctalDigit)]

def based? (cs : List Char) : Option (Nat × List Char) :=
  match cs with
  | '0' :: mark :: r =>
    (bases.find? (·.1 == mark)).bind fun b =>
      (grouped? b.2.2 r).map fun p => (ofDigitValues b.2.1 (p.1.map hexValue), p.2)
  | _ => none

def whole? (cs : List Char) : Option (List Char × List Char) :=
  match cs with
  | '0' :: r => some (['0'], r)
  | _ => grouped? isAsciiDigit cs

def fraction? : List Char → Option (List Char × List Char)
  | '.' :: r => (grouped? isAsciiDigit r).map fun p => ('.' :: p.1, p.2)
  | _ => none

def exponent? : List Char → Option (List Char × List Char)
  | mark :: r =>
    if mark = 'e' || mark = 'E' then
      let sign := (r.take 1).filter fun c => c = '+' || c = '-'
      (grouped? isAsciiDigit (r.drop sign.length)).map fun p => ('e' :: sign ++ p.1, p.2)
    else none
  | [] => none

def decimalNumber : Reader Scalar := do
  let sign := ((← get).take 1).filter fun c => c = '+' || c = '-'
  drop sign.length
  let negative := sign = ['-']
  if ← accept ['i', 'n', 'f'] then return .float (.infinite negative)
  if ← accept ['n', 'a', 'n'] then return .float .nan
  let whole ← cut whole?
  let tail := (fraction? (← get)).getD ([], ← get)
  let power := (exponent? tail.2).getD ([], tail.2)
  set power.2
  if tail.1.isEmpty && power.1.isEmpty then
    if digitLimit < whole.length then throw (.value (.tooManyDigits whole.length))
    return .int (Number.Binary64.signed negative (ofDecimalDigits whole))
  else
    match Number.Binary64.ofText? (sign ++ whole ++ tail.1 ++ power.1) with
    | some x => return .float x
    | none => malformed

def bare : Reader Scalar := do
  if ← accept ['t', 'r', 'u', 'e'] then return .bool true
  if ← accept ['f', 'a', 'l', 's', 'e'] then return .bool false
  let cs ← get
  match moment? cs, based? cs with
  | some (m, r), _ =>
    if m.bad?.isSome then malformed
    set r
    return .moment m
  | none, some (n, r) => set r; return .int n
  | none, none => decimalNumber

end UtilityCss.Document.Toml
