import UtilityCss.Number.Binary64
import UtilityCss.Text.Cut
import UtilityCss.Text.Digit

namespace UtilityCss.Number

open Text

/-- The longest plain numeral at the start of a text, and what follows it: digits with an optional
fraction, or a fraction alone. -/
def numeral? (cs : List Char) : Option (List Char × List Char) :=
  let whole := cs.takeWhile isDecimalDigit
  let rest := cs.dropWhile isDecimalDigit
  match rest with
  | '.' :: r =>
    let fraction := r.takeWhile isDecimalDigit
    if fraction.isEmpty then if whole.isEmpty then none else some (whole, rest)
    else some (whole ++ '.' :: fraction, r.dropWhile isDecimalDigit)
  | _ => if whole.isEmpty then none else some (whole, rest)

def isNumeral (cs : List Char) : Bool :=
  match numeral? (dropFinalNewline cs) with
  | some (_, []) => true
  | _ => false

def isNumberBlank (c : Char) : Bool :=
  isBlank c && !('\x1c' ≤ c && c ≤ '\x1f')

def dropUnderscores? (afterDigit : Bool) : List Char → Option (List Char)
  | [] => some []
  | c :: r =>
    if c = '_' then
      match r with
      | d :: _ => if afterDigit && isDecimalDigit d then dropUnderscores? false r else none
      | [] => none
    else (dropUnderscores? (isDecimalDigit c) r).map (c :: ·)

def splitSign : List Char → Bool × List Char
  | '-' :: r => (true, r)
  | '+' :: r => (false, r)
  | cs => (false, cs)

def exponent? : List Char → Option Int
  | [] => some 0
  | c :: r =>
    if c = 'e' || c = 'E' then
      let (negative, ds) := splitSign r
      if !ds.isEmpty && ds.all isDecimalDigit then some (Binary64.signed negative (ofDecimalDigits ds))
      else none
    else none

def unsigned? (negative : Bool) (cs : List Char) : Option Binary64 :=
  let whole := cs.takeWhile isDecimalDigit
  let rest := cs.dropWhile isDecimalDigit
  let fraction := match rest with
    | '.' :: r => r.takeWhile isDecimalDigit
    | _ => []
  let tail := match rest with
    | '.' :: r => r.dropWhile isDecimalDigit
    | _ => rest
  if whole.isEmpty && fraction.isEmpty then none
  else (exponent? tail).map fun e =>
    Binary64.ofDecimal negative (ofDecimalDigits (whole ++ fraction)) (e - fraction.length)

def Binary64.ofText? (cs : List Char) : Option Binary64 :=
  let (negative, body) := splitSign (trimBy isNumberBlank cs)
  let name := String.ofList (body.map Char.toLower)
  if name = "inf" || name = "infinity" then some (infinite negative)
  else if name = "nan" then some nan
  else (dropUnderscores? false body).bind (unsigned? negative)

def Binary64.ofNumeral (cs : List Char) : Binary64 :=
  (ofText? cs).getD (zero false)

end UtilityCss.Number
