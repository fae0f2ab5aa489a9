import UtilityCss.Document.Yaml.Kind

namespace UtilityCss.Document.Yaml

inductive Shape where
  | scalar (codes : List Nat)
  | list (items : List Nat)
  | map (entries : List (Nat × Nat))
  deriving DecidableEq

structure Node where
  kind : Option Kind
  shape : Shape
  deriving DecidableEq

abbrev Graph := Array Node

namespace Graph

def kindOf (g : Graph) (id : Nat) : Option Kind :=
  g[id]?.bind Node.kind

def shapeOf (g : Graph) (id : Nat) : Shape :=
  (g[id]?.map Node.shape).getD (.list [])

def entriesOf (g : Graph) (id : Nat) : List (Nat × Nat) :=
  match g.shapeOf id with
  | .map entries => entries
  | _ => []

def setShape (id : Nat) (shape : Shape) (g : Graph) : Graph :=
  g.modify id fun n => { n with shape }

def setKind (id : Nat) (kind : Kind) (g : Graph) : Graph :=
  g.modify id fun n => { n with kind := some kind }

def mergeCount (g : Graph) : Nat :=
  g.foldl (fun n node =>
    match node.shape with
    | .map entries => n + (entries.filter fun e => g.kindOf e.1 = some .merge).length
    | _ => n) 0

end Graph

end UtilityCss.Document.Yaml
