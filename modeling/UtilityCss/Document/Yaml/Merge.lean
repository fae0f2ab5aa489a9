import UtilityCss.Document.Flaw
import UtilityCss.Document.Yaml.Graph

namespace UtilityCss.Document.Yaml

abbrev Merging := StateT Graph (Except Flaw)

def readAsText (id : Nat) : Merging Unit :=
  modify fun g => if g.kindOf id = some .equals then g.setKind id .text else g

mutual

def mergeInto (id : Nat) : Nat → Merging Unit
  | 0 => throw .malformed
  | fuel + 1 => mergeFrom id 0 [] fuel

def mergeFrom (id place : Nat) (taken : List (Nat × Nat)) : Nat → Merging Unit
  | 0 => throw .malformed
  | fuel + 1 => do
    let g ← get
    let es := g.entriesOf id
    let own := (es.drop place).takeWhile fun e => g.kindOf e.1 ≠ some .merge
    own.forM fun e => readAsText e.1
    let next := place + own.length
    match es[next]? with
    | none => unless taken.isEmpty do modify (Graph.setShape id (.map (taken ++ es)))
    | some e =>
      modify (Graph.setShape id (.map (es.eraseIdx next)))
      let more ← takenFrom e.2 fuel
      mergeFrom id next (taken ++ more) fuel

def takenFrom (id : Nat) : Nat → Merging (List (Nat × Nat))
  | 0 => throw .malformed
  | fuel + 1 => do
    match (← get).shapeOf id with
    | .map _ =>
      mergeInto id fuel
      return (← get).entriesOf id
    | .list items =>
      let parts ← items.mapM fun item => do
        unless (← get).shapeOf item matches .map _ do throw .malformed
        mergeInto item fuel
        return (← get).entriesOf item
      return parts.reverse.flatten
    | .scalar _ => throw .malformed

end

def merged (id merges : Nat) (g : Graph) : Except Flaw Graph :=
  (mergeInto id (3 * merges + 3)).run g |>.map Prod.snd

end UtilityCss.Document.Yaml
