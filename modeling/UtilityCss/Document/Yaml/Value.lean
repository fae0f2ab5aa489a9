import UtilityCss.Datum
import UtilityCss.Document.Flaw
import UtilityCss.Document.Yaml.Kind
import UtilityCss.Number.Whole
import UtilityCss.Text.Base64
import UtilityCss.Text.Case

namespace UtilityCss.Document.Yaml

open Text Number

def boolValue (cs : List Char) : Except Fault Bool :=
  let word := String.ofList (lower cs)
  if trueWords.contains word then .ok true
  else if falseWords.contains word then .ok false
  else .error (.unknownWord word)

def ungrouped (cs : List Char) : List Char :=
  cs.filter (· != '_')

def sizeValue (cs : List Char) : Except Fault Int :=
  match cs with
  | [] => .error .emptyNumber
  | ['0'] => .ok 0
  | '0' :: 'b' :: r => wholeOf 2 r
  | '0' :: 'x' :: r => wholeOf 16 r
  | '0' :: _ => wholeOf 8 cs
  | _ => ((cs.splitOn ':').mapM (wholeOf 10)).map fun parts => parts.foldl (fun n d => n * 60 + d) 0

def intValue (cs : List Char) : Except Fault Int :=
  let (negative, body) := splitSign (ungrouped cs)
  (sizeValue body).map fun n => if negative then -n else n

def realValue (cs : List Char) : Except Fault Binary64 :=
  match Binary64.ofText? cs with
  | some x => .ok x
  | none => .error (.notANumber (String.ofList cs))

def timesWhole (x : Binary64) (n : Nat) : Except Fault Binary64 :=
  match Binary64.ofInt? n with
  | some (.finite _ m e) => .ok (x.scale (Binary64.magnitude m e))
  | _ => .error .wholeTooLarge

def sixtiethSum (unit : Nat) (sum : Binary64) : List Binary64 → Except Fault Binary64
  | [] => .ok sum
  | x :: r => do sixtiethSum (unit * 60) (sum.add (← timesWhole x unit)) r

def isCommonNan (cs : List Char) : Bool :=
  (splitSign (lower (ungrouped cs))).2 = ['.', 'n', 'a', 'n']

def floatValue (cs : List Char) : Except Fault Binary64 := do
  let text := lower (ungrouped cs)
  if text.isEmpty then throw .emptyNumber
  let (negative, body) := splitSign text
  let size ←
    if body = ['.', 'i', 'n', 'f'] then pure (Binary64.infinite false)
    else if body = ['.', 'n', 'a', 'n'] then pure Binary64.nan
    else if body.contains ':' then do
      let parts ← (body.splitOn ':').mapM realValue
      sixtiethSum 1 (.zero false) parts.reverse
    else realValue body
  return if negative then size.negate else size

def daySeconds : Nat := 86400

def momentValue (cs : List Char) : Except Fault Moment :=
  match moment? cs with
  | none => .error .notAMoment
  | some m =>
    match m with
    | .instant _ _ _ _ _ _ _ (some offset) =>
      if daySeconds ≤ offset.natAbs then .error (.offsetTooLarge offset) else m.check
    | _ => m.check

def bytesValue (cs : List Char) : Except Flaw (List UInt8) :=
  match base64? cs with
  | some content => if cs.all fun c => c.toNat < 0x80 then .ok content else .error .malformed
  | none => .error .malformed

def Kind.value (k : Kind) (codes : List Nat) : Except Flaw Scalar :=
  let cs := (Scalar.replaceHalves codes).toList
  match k with
  | .null => .ok .null
  | .bool => (Flaw.ofFault (boolValue cs)).map Scalar.bool
  | .int => (Flaw.ofFault (intValue cs)).map Scalar.int
  | .float => (Flaw.ofFault (floatValue cs)).map Scalar.float
  | .bytes => (bytesValue cs).map Scalar.bytes
  | .moment => (Flaw.ofFault (momentValue cs)).map Scalar.moment
  | .text => .ok (.ofCodes codes)
  | _ => .error .malformed

end UtilityCss.Document.Yaml
