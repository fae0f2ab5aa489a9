import UtilityCss.Fault
import UtilityCss.Number.Reader

namespace UtilityCss.Number

open Text

def baseLetter? : Nat → Option Char
  | 2 => some 'b'
  | 8 => some 'o'
  | 16 => some 'x'
  | _ => none

def dropBase (base : Nat) : List Char → List Char
  | '0' :: c :: r => if baseLetter? base = some c.toLower then r else '0' :: c :: r
  | cs => cs

def plainDigit (c : Char) : Char :=
  match digitValue? c with
  | some d => Char.ofNat ('0'.toNat + d)
  | none => c

def isDigitIn (base : Nat) (c : Char) : Bool :=
  isHexDigit c && hexValue c < base

def wholeOf (base : Nat) (text : List Char) : Except Fault Int :=
  let (negative, body) := splitSign ((text.map plainDigit).dropWhile isNumberBlank)
  let body := dropBase base body
  let digits := body.takeWhile (isDigitIn base)
  if base = 10 && digitLimit < digits.length then .error (.tooManyDigits digits.length)
  else if digits.isEmpty || !(body.dropWhile (isDigitIn base)).all isNumberBlank then
    .error (.notAnInteger base (String.ofList text))
  else .ok (Binary64.signed negative (ofDigitValues base (digits.map hexValue)))

end UtilityCss.Number
