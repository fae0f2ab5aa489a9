import UtilityCss.Moment
import UtilityCss.Text.Quoted

namespace UtilityCss

inductive Scalar where
  | null
  | bool (b : Bool)
  | int (n : Int)
  | float (x : Number.Binary64)
  | text (s : String)
  | halves (codes : List Nat)
  | bytes (content : List UInt8)
  | moment (m : Moment)
  deriving DecidableEq

namespace Scalar

open Number

def ratio? : Scalar → Option (Int × Nat)
  | bool b => some (if b then 1 else 0, 1)
  | int n => some (n, 1)
  | float (.finite s m e) =>
    let r := Binary64.magnitude m e
    some (Binary64.signed s r.1, r.2)
  | _ => none

/-- Whether two scalars are one key: equal numbers are, whatever their kind, and a text never equals a
number. What is no number differs from itself. -/
def sameKey (a b : Scalar) : Bool :=
  match a, b with
  | moment m, moment n => m.same n
  | a, b =>
    match ratio? a, ratio? b with
    | some x, some y => x.1 * y.2 = y.1 * x.2
    | none, none => a = b && a ≠ float .nan
    | _, _ => false

def replaceHalves (codes : List Nat) : String :=
  String.ofList (codes.flatMap fun n =>
    if n.isValidChar then [Char.ofNat n] else List.replicate 3 '\uFFFD')

def ofCodes (codes : List Nat) : Scalar :=
  if codes.all Nat.isValidChar then text (String.ofList (codes.map Char.ofNat)) else halves codes

def byteText (content : List UInt8) : String :=
  let q := Text.quoteMark (content.map fun b => Char.ofNat b.toNat)
  String.ofList ('b' :: q :: content.flatMap (fun b =>
    let c := Char.ofNat b.toNat
    if c = q || c = '\\' then ['\\', c]
    else if 0x20 ≤ b.toNat && b.toNat < 0x7F then [c] else Text.escapeHidden c) ++ [q])

def isTooLong (n : Int) : Bool :=
  Nat.pow 10 Text.digitLimit ≤ n.natAbs

def decoded? (content : List UInt8) : Option String :=
  String.fromUTF8? ⟨content.toArray⟩

def toText : Scalar → String
  | null => "None"
  | bool true => "True"
  | bool false => "False"
  | int n => toString n
  | float x => String.ofList (faithful x)
  | text s => s
  | halves codes => replaceHalves codes
  | bytes content => byteText content
  | moment m => String.ofList m.text

def inner : Scalar → String
  | text s => Text.quotedText s
  | s => s.toText

def pathText : Scalar → String
  | bool b => if b then "1" else "0"
  | int n => if isTooLong n then "<unprintable int object>" else toString n
  | moment m => m.call
  | s => s.toText

def asText : Scalar → Scalar
  | halves codes => halves codes
  | s => text s.toText

end Scalar

inductive Datum where
  | scalar (s : Scalar)
  | list (items : List Datum)
  | set (items : List Scalar)
  | map (entries : List (Scalar × Datum))
  | deep

namespace Datum

instance : Inhabited Datum := ⟨scalar .null⟩

def putEntry (k : Scalar) (v : Datum) : List (Scalar × Datum) → List (Scalar × Datum)
  | [] => [(k, v)]
  | e :: r => if e.1.sameKey k then (e.1, v) :: r else e :: putEntry k v r

def mapOf (entries : List (Scalar × Datum)) : Datum :=
  map (entries.foldl (fun es e => putEntry e.1 e.2 es) [])

def field? (name : String) (entries : List (Scalar × Datum)) : Option Datum :=
  (entries.find? fun e => e.1 = .text name).map Prod.snd

def kindName : Datum → String
  | scalar .null => "NoneType"
  | scalar (.bool _) => "bool"
  | scalar (.int _) => "int"
  | scalar (.float _) => "float"
  | scalar (.text _) => "str"
  | scalar (.halves _) => "str"
  | scalar (.bytes _) => "bytes"
  | scalar (.moment (.day ..)) => "date"
  | scalar (.moment (.instant ..)) => "datetime"
  | scalar (.moment (.clock ..)) => "time"
  | list _ => "list"
  | set _ => "set"
  | map _ => "dict"
  | deep => "dict"

mutual

def inner : Datum → String
  | scalar s => s.inner
  | list items => "[" ++ ", ".intercalate (innerList items) ++ "]"
  | set items => "\x7b" ++ ", ".intercalate (items.map Scalar.inner) ++ "\x7d"
  | map entries => "\x7b" ++ ", ".intercalate (innerEntries entries) ++ "\x7d"
  | deep => "\x7b...\x7d"

def innerList : List Datum → List String
  | [] => []
  | d :: r => inner d :: innerList r

def innerEntries : List (Scalar × Datum) → List String
  | [] => []
  | (k, v) :: r => (k.inner ++ ": " ++ inner v) :: innerEntries r

end

def toText : Datum → String
  | scalar s => s.toText
  | d => inner d

end Datum

end UtilityCss
