import UtilityCss.Fault

namespace UtilityCss.Document

inductive Flaw where
  | malformed
  | value (fault : Fault)
  deriving DecidableEq

def Flaw.ofFault {α : Type} (x : Except Fault α) : Except Flaw α :=
  x.mapError .value

abbrev Reader := StateT (List Char) (Except Flaw)

namespace Reader

variable {α : Type}

def malformed : Reader α :=
  throw .malformed

def next? : Reader (Option Char) :=
  return (← get).head?

def run (p : Char → Bool) : Reader (List Char) :=
  modifyGet fun cs => (cs.takeWhile p, cs.dropWhile p)

def skip (p : Char → Bool) : Reader Unit :=
  modify (List.dropWhile p)

def drop (n : Nat) : Reader Unit :=
  modify (List.drop n)

def startsWith (mark : List Char) : Reader Bool :=
  return mark.isPrefixOf (← get)

def accept (mark : List Char) : Reader Bool :=
  modifyGet fun cs => if mark.isPrefixOf cs then (true, cs.drop mark.length) else (false, cs)

def require (mark : List Char) : Reader Unit := do
  unless ← accept mark do malformed

def deeper (nesting : Nesting) (cost room : Nat) : Reader Nat :=
  if room < cost then throw (.value (.tooDeep nesting)) else return room - cost

def cut (f : List Char → Option (α × List Char)) : Reader α := do
  match f (← get) with
  | some (a, r) => set r; return a
  | none => malformed

end Reader

end UtilityCss.Document
