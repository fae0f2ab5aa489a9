import UtilityCss.Document.Flaw

namespace UtilityCss.Document.Yaml

def isBreak (c : Char) : Bool :=
  c == '\n' || c == '\x85' || c == '\u2028' || c == '\u2029'

def isSpaceOrTab (c : Char) : Bool :=
  c == ' ' || c == '\t'

def endsLine (c : Option Char) : Bool :=
  c.all isBreak

def endsWord (c : Option Char) : Bool :=
  c.all fun c => isSpaceOrTab c || isBreak c

structure Cursor where
  rest : List Char
  line : Nat
  column : Nat
  index : Nat

namespace Cursor

def start (cs : List Char) : Cursor :=
  ⟨cs, 0, 0, 0⟩

def step (s : Cursor) : Cursor :=
  match s.rest with
  | [] => s
  | c :: r =>
    if isBreak c then ⟨r, s.line + 1, 0, s.index + 1⟩
    else ⟨r, s.line, if c = '\uFEFF' then s.column else s.column + 1, s.index + 1⟩

def skip : Nat → Cursor → Cursor
  | 0, s => s
  | n + 1, s => skip n s.step

def at? (s : Cursor) (k : Nat) : Option Char :=
  s.rest[k]?

def atMarker (s : Cursor) : Bool :=
  (['-', '-', '-'].isPrefixOf s.rest || ['.', '.', '.'].isPrefixOf s.rest) && endsWord (s.at? 3)

end Cursor

abbrev Walk := StateT Cursor (Except Flaw)

namespace Walk

variable {α : Type}

def malformed : Walk α :=
  throw .malformed

def next? : Walk (Option Char) :=
  return (← get).at? 0

def skip (n : Nat) : Walk Unit :=
  modify (Cursor.skip n)

def run (p : Char → Bool) : Walk (List Char) :=
  modifyGet fun s =>
    let cs := s.rest.takeWhile p
    (cs, s.skip cs.length)

def skipRun (p : Char → Bool) : Walk Unit :=
  discard (run p)

def skipToColumn (column : Nat) : Walk Unit :=
  modify fun s =>
    s.skip (min (column - s.column) (s.rest.takeWhile (· == ' ')).length)

def takeBreak? : Walk (Option Char) := do
  match ← next? with
  | some c =>
    if isBreak c then
      skip 1
      return some (if c = '\x85' then '\n' else c)
    else return none
  | none => return none

def skipLineRest : Walk Unit := do
  skipRun (· == ' ')
  if (← next?) = some '#' then skipRun (!isBreak ·)
  unless endsLine (← next?) do malformed
  discard takeBreak?

end Walk

end UtilityCss.Document.Yaml
