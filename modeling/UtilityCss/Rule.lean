import UtilityCss.Table
import UtilityCss.Token

namespace UtilityCss

/-- Where lines hold: from a width on, in a colour scheme, in a state, and for which elements; the
selector has `&` for the class itself. -/
structure Context where
  breakpoint : Option String
  mode : Option String
  variant : Option String
  selector : Option String
  deriving DecidableEq

structure Rule where
  lines : List String
  context : Context
  deriving DecidableEq

namespace Rule

def orElse (a b : Option String) : Option String :=
  match a with
  | some s => if s.isEmpty then b else a
  | none => b

def inherit (outer : Token) (r : Rule) : Rule :=
  { r with context := { r.context with
      breakpoint := orElse r.context.breakpoint outer.breakpoint
      variant := orElse r.context.variant outer.variant
      mode := orElse r.context.mode outer.mode } }

def gather (t : Table Context (List String)) (r : Rule) : Table Context (List String) :=
  t.insert r.context ((t.get? r.context).getD [] ++ r.lines)

def merge (rs : List Rule) : List Rule :=
  (rs.foldl gather .empty).entries.map fun e => ⟨e.2, e.1⟩

def linesOf (declarations : List (String × String)) : List String :=
  declarations.map fun d => d.1 ++ ": " ++ d.2 ++ ";"

end Rule

end UtilityCss
