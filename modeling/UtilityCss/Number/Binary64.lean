import UtilityCss.Number.Rounding

/-!
Double precision numbers. Every operation is computed exactly on ratios and rounded once, to the nearest
number with 53 significant bits.
-/

namespace UtilityCss.Number

/-- A double precision number. A finite one is `significand * 2 ^ exponent`, with the greatest
significand below `2 ^ 53` that leaves the exponent at `-1074` or more. -/
inductive Binary64 where
  | nan
  | infinite (negative : Bool)
  | finite (negative : Bool) (significand : Nat) (exponent : Int)
  deriving DecidableEq

namespace Binary64

def zero (negative : Bool) : Binary64 :=
  finite negative 0 (-1074)

def exponentFor (r : Nat × Nat) : Int :=
  let guess : Int := (r.1.log2 : Int) - r.2.log2 - 53
  let s := shift 2 (-guess) r
  max (if Nat.pow 2 53 ≤ s.1 / s.2 then guess + 1 else guess) (-1074)

def pack (negative : Bool) (significand : Nat) (exponent : Int) : Binary64 :=
  if 971 < exponent then infinite negative else finite negative significand exponent

def ofRatio (negative : Bool) (r : Nat × Nat) : Binary64 :=
  if r.1 = 0 then zero negative
  else
    let e := exponentFor r
    let s := shift 2 (-e) r
    let m := roundHalfEven s.1 s.2
    if m = Nat.pow 2 53 then pack negative (Nat.pow 2 52) (e + 1) else pack negative m e

def ofDecimal (negative : Bool) (digits : Nat) (exponent : Int) : Binary64 :=
  if digits = 0 then zero negative
  else if 310 < digitCount digits + exponent then infinite negative
  else if digitCount digits + exponent < -330 then zero negative
  else ofRatio negative (shift 10 exponent (digits, 1))

def ofInt? (n : Int) : Option Binary64 :=
  match ofRatio (n < 0) (n.natAbs, 1) with
  | infinite _ => none
  | x => some x

def ofNat (n : Nat) : Binary64 :=
  ofRatio false (n, 1)

def signed (negative : Bool) (n : Nat) : Int :=
  if negative then -n else n

def magnitude (significand : Nat) (exponent : Int) : Nat × Nat :=
  shift 2 exponent (significand, 1)

def scale (r : Nat × Nat) : Binary64 → Binary64
  | finite s m e => let x := magnitude m e; ofRatio s (x.1 * r.1, x.2 * r.2)
  | x => x

def add : Binary64 → Binary64 → Binary64
  | nan, _ => nan
  | _, nan => nan
  | infinite s, infinite t => if s = t then infinite s else nan
  | infinite s, _ => infinite s
  | _, infinite t => infinite t
  | finite s m e, finite t n f =>
    let x := magnitude m e
    let y := magnitude n f
    let sum := signed s (x.1 * y.2) + signed t (y.1 * x.2)
    ofRatio (if sum = 0 then s && t else sum < 0) (sum.natAbs, x.2 * y.2)

def negate : Binary64 → Binary64
  | nan => nan
  | infinite s => infinite !s
  | finite s m e => finite (!s) m e

def roundPlaces (places : Nat) : Binary64 → Binary64
  | finite s m e =>
    let x := magnitude m e
    ofRatio s (roundHalfEven (x.1 * Nat.pow 10 places) x.2, Nat.pow 10 places)
  | x => x

def le : Binary64 → Binary64 → Bool
  | nan, _ => false
  | _, nan => false
  | infinite true, _ => true
  | _, infinite false => true
  | infinite false, _ => false
  | _, infinite true => false
  | finite s m e, finite t n f =>
    let x := magnitude m e
    let y := magnitude n f
    decide (signed s (x.1 * y.2) ≤ signed t (y.1 * x.2))

def isZero : Binary64 → Bool
  | finite _ m _ => m == 0
  | _ => false

end Binary64

end UtilityCss.Number
