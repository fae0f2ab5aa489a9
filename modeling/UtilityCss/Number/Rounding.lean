namespace UtilityCss.Number

def roundHalfEven (num den : Nat) : Nat :=
  let q := num / den
  let r := num % den
  if 2 * r < den then q else if den < 2 * r then q + 1 else q + q % 2

def shift (base : Nat) (by_ : Int) (r : Nat × Nat) : Nat × Nat :=
  (r.1 * base.pow by_.toNat, r.2 * base.pow (-by_).toNat)

def digitCount (n : Nat) : Nat :=
  (Nat.toDigits 10 n).length

def decimalExponent (r : Nat × Nat) : Int :=
  let guess : Int := digitCount r.1 - digitCount r.2
  let s := shift 10 (-guess) r
  if s.2 ≤ s.1 then guess else guess - 1

def significant (places : Nat) (r : Nat × Nat) : Nat × Int :=
  let e := decimalExponent r
  let s := shift 10 (places - e) r
  let d := roundHalfEven s.1 s.2
  if d = Nat.pow 10 (places + 1) then (Nat.pow 10 places, e + 1) else (d, e)

end UtilityCss.Number
