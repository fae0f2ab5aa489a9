import UtilityCss.Document.Yaml.Object
import UtilityCss.Document.Yaml.Outline

/-!
The value of a YAML document, written out from its objects. A collection that holds itself is written out
inside itself a few times, and cut off there.
-/

namespace UtilityCss.Document.Yaml

def Object.value? (known : Nat → Option Datum) : Object → Option Datum
  | .scalar k => some (.scalar k.scalar)
  | .list items => (items.mapM known).map Datum.list
  | .set keys => some (.set (keys.map Key.scalar))
  | .map entries =>
    (entries.mapM fun (e : Key × Nat) => (known e.2).map (e.1.scalar, ·)).map Datum.map
  | .pairs items =>
    (items.mapM fun (e : Nat × Nat) => do return Datum.list [← known e.1, ← known e.2]).map Datum.list

abbrev Values := Array (Option Datum)

namespace Values

def at? (vs : Values) (id : Nat) : Option Datum :=
  vs[id]?.bind fun v => v

def next (objects : Array (Option Object)) (vs : Values) : Values :=
  objects.mapIdx fun id o => (vs.at? id).or (o.bind (Object.value? vs.at?))

def count (vs : Values) : Nat :=
  vs.countP Option.isSome

def settle (objects : Array (Option Object)) (vs : Values) : Nat → Values
  | 0 => vs
  | fuel + 1 =>
    let ws := next objects vs
    if ws.count = vs.count then vs else settle objects ws fuel

def unfold (objects : Array (Option Object)) (vs : Values) : Nat → Values
  | 0 => vs
  | depth + 1 =>
    let ws := unfold objects vs depth
    objects.mapIdx fun id o =>
      (vs.at? id).or (o.bind (Object.value? fun i => (ws.at? i).or (some .deep)))

end Values

/-- How often a collection is written out inside itself: more often than any check looks into it. -/
def unfoldings : Nat := 8

def valueOf (objects : Array (Option Object)) (root : Nat) : Datum :=
  let known := Values.settle objects (Array.replicate objects.size none) objects.size
  ((known.unfold objects unfoldings).at? root).getD .deep

def read (room : Nat) (cs : List Char) : Except Flaw Datum := do
  match ← outline room cs with
  | some (g, root) => return valueOf (← objectsOf g root) root
  | none => return .scalar .null

end UtilityCss.Document.Yaml
