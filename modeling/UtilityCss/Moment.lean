import UtilityCss.Number.Printer
import UtilityCss.Text.Digit

namespace UtilityCss

inductive Moment where
  | day (year month day : Nat)
  | instant (year month day hour minute second micro : Nat) (offset : Option Int)
  | clock (hour minute second micro : Nat)
  deriving DecidableEq

namespace Moment

open Text Number

def two (n : Nat) : List Char := padLeft 2 (decimal n)

def dayText (y m d : Nat) : List Char :=
  padLeft 4 (decimal y) ++ '-' :: two m ++ '-' :: two d

def clockText (h m s us : Nat) : List Char :=
  two h ++ ':' :: two m ++ ':' :: two s
    ++ (if us = 0 then [] else '.' :: padLeft 6 (decimal us))

def offsetText (seconds : Int) : List Char :=
  let n := seconds.natAbs
  (if seconds < 0 then '-' else '+') :: two (n / 3600) ++ ':' :: two (n / 60 % 60)
    ++ (if n % 60 = 0 then [] else ':' :: two (n % 60))

def text : Moment → List Char
  | day y m d => dayText y m d
  | instant y m d h n s us off =>
    dayText y m d ++ ' ' :: clockText h n s us ++ (off.map offsetText).getD []
  | clock h m s us => clockText h m s us

/-- The days from the first of March of the year zero to a day. The years start in March here, so that the
day that only some years have comes last. -/
def dayNumber (y m d : Nat) : Int :=
  let year : Int := if m ≤ 2 then (y : Int) - 1 else y
  let month : Int := ((m : Int) + 9) % 12
  365 * year + year / 4 - year / 100 + year / 400 + (153 * month + 2) / 5 + d - 1

def absolute? : Moment → Option Int
  | instant y m d h n s us (some offset) =>
    some ((((dayNumber y m d * 24 + h) * 60 + n) * 60 + s - offset) * 1000000 + us)
  | _ => none

def same (a b : Moment) : Bool :=
  match a.absolute?, b.absolute? with
  | some x, some y => x = y
  | none, none => a = b
  | _, _ => false

def spanCall (seconds : Int) : String :=
  let days := Int.fdiv seconds 86400
  let rest := Int.fmod seconds 86400
  let parts := (if days = 0 then [] else ["days=" ++ toString days])
    ++ (if rest = 0 then [] else ["seconds=" ++ toString rest])
  "datetime.timedelta(" ++ (if parts.isEmpty then "0" else ", ".intercalate parts) ++ ")"

def secondParts (s us : Nat) : List Nat :=
  if us = 0 then if s = 0 then [] else [s] else [s, us]

def call : Moment → String
  | day y m d => "datetime.date(" ++ ", ".intercalate ([y, m, d].map toString) ++ ")"
  | instant y m d h n s us offset =>
    "datetime.datetime(" ++ ", ".intercalate (([y, m, d, h, n] ++ secondParts s us).map toString)
      ++ (match offset with
        | none => ""
        | some 0 => ", tzinfo=datetime.timezone.utc"
        | some x => ", tzinfo=datetime.timezone(" ++ spanCall x ++ ")") ++ ")"
  | clock h n s us =>
    "datetime.time(" ++ ", ".intercalate (([h, n] ++ secondParts s us).map toString) ++ ")"

end Moment

end UtilityCss
