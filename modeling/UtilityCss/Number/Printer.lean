import UtilityCss.Number.Binary64
import UtilityCss.Text.Digit

namespace UtilityCss.Number

open Text

/-- How a number with given digits is laid out: the least decimal exponent that needs scientific form,
and whether a whole number shows a zero after the point. -/
structure Layout where
  scientificFrom : Int
  wholePoint : Bool

def Layout.short : Layout := ⟨6, false⟩

def Layout.faithful : Layout := ⟨16, true⟩

def padLeft (width : Nat) (cs : List Char) : List Char :=
  List.replicate (width - cs.length) '0' ++ cs

def trimZeros (cs : List Char) : List Char :=
  (cs.reverse.dropWhile (· == '0')).reverse

def withFraction (whole fraction : List Char) : List Char :=
  if fraction.isEmpty then whole else whole ++ '.' :: fraction

def exponentText (e : Int) : List Char :=
  'e' :: (if e < 0 then '-' else '+') :: padLeft 2 (decimal e.natAbs)

def Layout.write (layout : Layout) (digits : List Char) (e : Int) : List Char :=
  if -4 ≤ e && e < layout.scientificFrom then
    if e < 0 then withFraction ['0'] (List.replicate (-e - 1).toNat '0' ++ digits)
    else
      let n := e.toNat + 1
      let whole := digits.take n ++ List.replicate (n - digits.length) '0'
      let fraction := digits.drop n
      withFraction whole (if fraction.isEmpty && layout.wholePoint then ['0'] else fraction)
  else withFraction (digits.take 1) (digits.drop 1) ++ exponentText e

def signText (negative : Bool) (cs : List Char) : List Char :=
  if negative then '-' :: cs else cs

def infinityText (negative : Bool) : List Char :=
  signText negative ['i', 'n', 'f']

def nanText : List Char := ['n', 'a', 'n']

def fixedRatio (places : Nat) (r : Nat × Nat) : List Char :=
  let ds := padLeft (places + 1) (decimal (roundHalfEven (r.1 * Nat.pow 10 places) r.2))
  withFraction (ds.take (ds.length - places)) (ds.drop (ds.length - places))

def fixed (places : Nat) : Binary64 → List Char
  | .nan => nanText
  | .infinite s => infinityText s
  | .finite s m e => signText s (fixedRatio places (Binary64.magnitude m e))

def general : Binary64 → List Char
  | .nan => nanText
  | .infinite s => infinityText s
  | .finite s m e =>
    if m = 0 then signText s ['0']
    else
      let (d, x) := significant 5 (Binary64.magnitude m e)
      signText s (Layout.short.write (trimZeros (decimal d)) x)

def nearestReading? (x : Binary64) (s : Nat × Nat) (unit : Int) : Option Nat :=
  let low := s.1 / s.2
  let reads := fun d => Binary64.ofRatio false (shift 10 unit (d, 1)) = x
  if reads low && reads (low + 1) then some (roundHalfEven s.1 s.2)
  else if reads low then some low
  else if reads (low + 1) then some (low + 1)
  else none

def shortest (m : Nat) (e : Int) : Nat × Int :=
  let r := Binary64.magnitude m e
  let top := decimalExponent r
  let found := (List.range 17).findSome? fun (places : Nat) =>
    let unit := top - (places : Int)
    (nearestReading? (.finite false m e) (shift 10 (-unit) r) unit).map fun d => (d, unit)
  found.getD (0, 0)

def faithful : Binary64 → List Char
  | .nan => nanText
  | .infinite s => infinityText s
  | .finite s m e =>
    if m = 0 then signText s ['0', '.', '0']
    else
      let (d, unit) := shortest m e
      let ds := decimal d
      signText s (Layout.faithful.write (trimZeros ds) (unit + ds.length - 1))

end UtilityCss.Number
