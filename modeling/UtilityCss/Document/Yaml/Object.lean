import UtilityCss.Document.Yaml.Merge
import UtilityCss.Document.Yaml.Value

namespace UtilityCss.Document.Yaml

structure Key where
  scalar : Scalar
  origin : Option Nat

def Key.same (a b : Key) : Bool :=
  a.scalar.sameKey b.scalar
    || (a.scalar = .float .nan && b.scalar = .float .nan && a.origin = b.origin)

inductive Object where
  | scalar (key : Key)
  | list (items : List Nat)
  | set (keys : List Key)
  | map (entries : List (Key × Nat))
  | pairs (items : List (Nat × Nat))

structure Making where
  graph : Graph
  objects : Array (Option Object)
  waiting : List Nat
  merges : Nat

abbrev Make := StateT Making (Except Flaw)

namespace Make

def malformed {α : Type} : Make α :=
  throw .malformed

def put (id : Nat) (o : Object) : Make Unit :=
  modify fun s => { s with objects := s.objects.setIfInBounds id (some o) }

def start (id : Nat) (o : Object) : Make Unit := do
  put id o
  modify fun s => { s with waiting := id :: s.waiting }

def textOf (g : Graph) (id : Nat) : Nat → Except Flaw (List Nat)
  | 0 => .error (.value (.tooDeep .others))
  | fuel + 1 =>
    match g.shapeOf id with
    | .scalar codes => .ok codes
    | .list _ => .error .malformed
    | .map entries =>
      match entries.find? fun e => g.kindOf e.1 = some .equals with
      | some e => textOf g e.2 fuel
      | none => .error .malformed

def scalar (g : Graph) (id : Nat) (k : Kind) : Except Flaw Key := do
  let codes ← textOf g id (g.size + 1)
  if k = .moment && g.shapeOf id matches .map _ then throw (.value .momentOfMap)
  let s ← k.value codes
  return ⟨s, if isCommonNan (Scalar.replaceHalves codes).toList then none else some id⟩

def make (id : Nat) : Make Unit := do
  let s ← get
  if (s.objects[id]?.bind fun o => o).isSome then return
  match s.graph.kindOf id with
  | some .list => start id (.list [])
  | some .map => start id (.map [])
  | some .set => start id (.set [])
  | some .pairs => start id (.pairs [])
  | some .merge => malformed
  | some .equals => malformed
  | some k => put id (.scalar (← scalar s.graph id k))
  | none => malformed

def keyOf (id : Nat) : Make Key := do
  match (← get).objects[id]? with
  | some (some (.scalar k)) => return k
  | _ => malformed

def putEntry (k : Key) (id : Nat) : List (Key × Nat) → List (Key × Nat)
  | [] => [(k, id)]
  | e :: r => if e.1.same k then (e.1, id) :: r else e :: putEntry k id r

def entries (id : Nat) : Make (List (Key × Nat)) := do
  let s ← get
  unless s.graph.shapeOf id matches .map _ do malformed
  let graph ← merged id s.merges s.graph
  set { s with graph }
  (graph.entriesOf id).foldlM (fun es e => do
    make e.1
    let k ← keyOf e.1
    make e.2
    return putEntry k e.2 es) []

def items (id : Nat) : Make (List Nat) := do
  match (← get).graph.shapeOf id with
  | .list items => return items
  | _ => malformed

def pair (id : Nat) : Make (Nat × Nat) := do
  match (← get).graph.shapeOf id with
  | .map [e] =>
    make e.1
    make e.2
    return e
  | _ => malformed

def fill (id : Nat) : Make Unit := do
  match (← get).graph.kindOf id with
  | some .list =>
    let ids ← items id
    ids.forM make
    put id (.list ids)
  | some .pairs => put id (.pairs (← (← items id).mapM pair))
  | some .map => put id (.map (← entries id))
  | some .set => put id (.set ((← entries id).map Prod.fst))
  | _ => malformed

def fillAll : Nat → Make Unit
  | 0 => return
  | fuel + 1 => do
    let begun := (← get).waiting.reverse
    unless begun.isEmpty do
      modify fun s => { s with waiting := [] }
      begun.forM fill
      fillAll fuel

end Make

def objectsOf (g : Graph) (root : Nat) : Except Flaw (Array (Option Object)) := do
  let play : Make Unit := do
    Make.make root
    Make.fillAll (g.size + 1)
  return (← play.run ⟨g, Array.replicate g.size none, [], g.mergeCount⟩).2.objects

end UtilityCss.Document.Yaml
