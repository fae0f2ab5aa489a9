import UtilityCss.Text.Hidden

namespace UtilityCss.Text

def hexDigits (width n : Nat) : List Char :=
  let ds := Nat.toDigits 16 n
  List.replicate (width - ds.length) '0' ++ ds

def escapeHidden (c : Char) : List Char :=
  if c = '\n' then ['\\', 'n']
  else if c = '\r' then ['\\', 'r']
  else if c = '\t' then ['\\', 't']
  else if c.toNat < 0x100 then '\\' :: 'x' :: hexDigits 2 c.toNat
  else if c.toNat < 0x10000 then '\\' :: 'u' :: hexDigits 4 c.toNat
  else '\\' :: 'U' :: hexDigits 8 c.toNat

def quoteMark (cs : List Char) : Char :=
  if cs.contains '\'' && !cs.contains '"' then '"' else '\''

def quoted (cs : List Char) : List Char :=
  let q := quoteMark cs
  q :: cs.flatMap (fun c =>
    if c = q || c = '\\' then ['\\', c] else if isHidden c then escapeHidden c else [c]) ++ [q]

def quotedText (s : String) : String :=
  String.ofList (quoted s.toList)

end UtilityCss.Text
