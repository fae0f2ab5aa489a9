import UtilityCss.Text.Cut

namespace UtilityCss

structure Path where
  absolute : Bool
  parts : List String
  deriving DecidableEq

namespace Path

instance : Inhabited Path := ⟨⟨false, []⟩⟩

def isPlain (part : String) : Bool :=
  part ≠ "" && part ≠ "."

def ofText (s : String) : Path :=
  ⟨s.toList.head? = some '/', (Text.pieces '/' s).filter isPlain⟩

def toText (p : Path) : String :=
  let names := "/".intercalate p.parts
  if p.absolute then "/" ++ names else if p.parts.isEmpty then "." else names

def under (dir p : Path) : Path :=
  if p.absolute then p else ⟨dir.absolute, dir.parts ++ p.parts⟩

def parent (p : Path) : Path :=
  ⟨p.absolute, p.parts.dropLast⟩

def child (p : Path) (name : String) : Path :=
  ⟨p.absolute, p.parts ++ [name]⟩

def name (p : Path) : String :=
  p.parts.getLastD ""

def suffix (p : Path) : String :=
  let tail := p.name.toList.reverse.takeWhile (· != '.')
  if tail.isEmpty || p.name.toList.length ≤ tail.length + 1 then ""
  else String.ofList ('.' :: tail.reverse)

def resolveStep (names : List String) (part : String) : List String :=
  if part = ".." then names.dropLast else names ++ [part]

def resolve (home : List String) (p : Path) : List String :=
  p.parts.foldl resolveStep (if p.absolute then [] else home)

def namesLe : List String → List String → Bool
  | [], _ => true
  | _ :: _, [] => false
  | a :: as, b :: bs => if a = b then namesLe as bs else decide (a < b)

def steps (p : Path) : List String :=
  if p.absolute then "/" :: p.parts else p.parts

def le (p q : Path) : Bool :=
  namesLe p.steps q.steps

def sorted (ps : List Path) : List Path :=
  ps.mergeSort le

end Path

end UtilityCss
