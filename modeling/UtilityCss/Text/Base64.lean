namespace UtilityCss.Text

def sextet? (c : Char) : Option Nat :=
  if 'A' ≤ c && c ≤ 'Z' then some (c.toNat - 'A'.toNat)
  else if 'a' ≤ c && c ≤ 'z' then some (c.toNat - 'a'.toNat + 26)
  else if '0' ≤ c && c ≤ '9' then some (c.toNat - '0'.toNat + 52)
  else if c = '+' then some 62
  else if c = '/' then some 63
  else none

def base64Body? (count left filled : Nat) : List Char → Option (List UInt8)
  | [] => if count = 0 then some [] else none
  | c :: r =>
    if c = '=' then
      if count < 2 then base64Body? count left filled r
      else if 3 ≤ count + filled then some []
      else base64Body? count left (filled + 1) r
    else
      match sextet? c with
      | none => base64Body? count left filled r
      | some n =>
        match count with
        | 0 => base64Body? 1 n 0 r
        | 1 => (base64Body? 2 (n % 16) 0 r).map (UInt8.ofNat (left * 4 + n / 16) :: ·)
        | 2 => (base64Body? 3 (n % 4) 0 r).map (UInt8.ofNat (left * 16 + n / 4) :: ·)
        | _ => (base64Body? 0 0 0 r).map (UInt8.ofNat (left * 64 + n) :: ·)

def base64? (cs : List Char) : Option (List UInt8) :=
  base64Body? 0 0 0 cs

end UtilityCss.Text
