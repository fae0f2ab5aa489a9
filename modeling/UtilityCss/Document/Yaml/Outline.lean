import UtilityCss.Datum
import UtilityCss.Document.Yaml.Graph
import UtilityCss.Document.Yaml.Mark

namespace UtilityCss.Document.Yaml

namespace Outline

structure Progress where
  marks : List Mark
  graph : Graph
  named : List (String × Nat)
  handles : List (String × String)
  /-- what is left for collections inside the one that is read, each of which takes two parts of it -/
  room : Nat

abbrev Read := StateT Progress (Except Flaw)

variable {α : Type}

def malformed : Read α :=
  throw .malformed

def next? : Read (Option Mark) := do
  match (← get).marks.head? with
  | some (.broken f) => throw (.value f)
  | m => return m

def advance : Read Unit :=
  modify fun s => { s with marks := s.marks.tail }

def accept (m : Mark) : Read Bool := do
  if (← next?) = some m then advance; return true else return false

def require (m : Mark) : Read Unit := do
  unless ← accept m do malformed

def precedes (ms : List Mark) : Read Bool := do
  return (← next?).any fun m => ms.contains m

def standardHandles : List (String × String) :=
  [("!", "!"), ("!!", coreTags)]

def tagName (handle : Option String) (rest : String) : Read String := do
  match handle with
  | none => return rest
  | some h =>
    match (← get).handles.find? (·.1 == h) with
    | some p => return p.2 ++ rest
    | none => malformed

def anchor? : Read (Option String) := do
  match ← next? with
  | some (.anchor n) => advance; return some n
  | _ => return none

def tag? : Read (Option (Option String × String)) := do
  match ← next? with
  | some (.tag h t) => advance; return some (h, t)
  | _ => return none

def properties : Read (Option String × Option String) := do
  let (name, tag) ← match ← anchor? with
    | some n => pure (some n, ← tag?)
    | none =>
      match ← tag? with
      | some t => pure (← anchor?, some t)
      | none => pure (none, none)
  return (name, ← tag.mapM fun t => tagName t.1 t.2)

def add (n : Node) : Read Nat := do
  let id := (← get).graph.size
  modify fun s => { s with graph := s.graph.push n }
  return id

def addNamed (name : Option String) (n : Node) : Read Nat := do
  match name with
  | none => add n
  | some a =>
    if (← get).named.any (·.1 == a) then malformed
    let id ← add n
    modify fun s => { s with named := (a, id) :: s.named }
    return id

def deeper (parts : Read α) : Read α := do
  let room := (← get).room
  if room < 2 then throw (.value (.tooDeep .others))
  modify fun s => { s with room := room - 2 }
  let a ← parts
  modify fun s => { s with room }
  return a

def addCollection (name : Option String) (n : Node) (parts : Read Shape) : Read Nat := do
  let id ← addNamed name n
  let shape ← deeper parts
  modify fun s => { s with graph := s.graph.setShape id shape }
  return id

def kindOf (tag : Option String) (implicit : Kind) : Option Kind :=
  match tag with
  | none => some implicit
  | some t => if t = "!" then some implicit else Kind.ofTag? t

def scalarNode (tag : Option String) (plain : Bool) (codes : List Nat) : Node :=
  let byText := tag = some "!" || (plain && tag.isNone)
  ⟨kindOf tag (if byText then .ofText (Scalar.replaceHalves codes).toList else .text), .scalar codes⟩

def listNode (tag : Option String) : Node :=
  ⟨kindOf tag .list, .list []⟩

def mapNode (tag : Option String) : Node :=
  ⟨kindOf tag .map, .map []⟩

def addEmpty : Read Nat :=
  add (scalarNode none true [])

mutual

def node (block noIndent : Bool) : Nat → Read Nat
  | 0 => malformed
  | fuel + 1 => do
    match ← next? with
    | some (.alias a) =>
      advance
      match (← get).named.find? (·.1 == a) with
      | some p => return p.2
      | none => malformed
    | _ =>
      let (name, tag) ← properties
      let list := fun (items : Read (List Nat)) =>
        addCollection name (listNode tag) (Shape.list <$> items)
      let map := fun (entries : Read (List (Nat × Nat))) =>
        addCollection name (mapNode tag) (Shape.map <$> entries)
      match ← next? with
      | some (.scalar codes plain) =>
        advance
        addNamed name (scalarNode tag plain codes)
      | some .flowListStart => list do advance; flowItems true fuel
      | some .flowMapStart => map do advance; flowEntries true fuel
      | m =>
        if m = some .item && noIndent then list (plainItems fuel)
        else if m = some .listStart && block then list do advance; blockItems fuel
        else if m = some .mapStart && block then map do advance; blockEntries fuel
        else if name.isSome || tag.isSome then addNamed name (scalarNode tag tag.isNone [])
        else malformed

def nodeUnless (stops : List Mark) (block noIndent : Bool) : Nat → Read Nat
  | 0 => malformed
  | fuel + 1 => do
    if ← precedes stops then addEmpty else node block noIndent fuel

def blockItems : Nat → Read (List Nat)
  | 0 => malformed
  | fuel + 1 => do
    if ← accept .item then
      let n ← nodeUnless [.item, .blockEnd] true false fuel
      return n :: (← blockItems fuel)
    else
      require .blockEnd
      return []

def plainItems : Nat → Read (List Nat)
  | 0 => malformed
  | fuel + 1 => do
    if ← accept .item then
      let n ← nodeUnless [.item, .key, .value, .blockEnd] true false fuel
      return n :: (← plainItems fuel)
    else return []

def valueUnless (stops : List Mark) (block : Bool) : Nat → Read Nat
  | 0 => malformed
  | fuel + 1 => do
    if ← accept .value then nodeUnless stops block block fuel else addEmpty

def blockEntries : Nat → Read (List (Nat × Nat))
  | 0 => malformed
  | fuel + 1 => do
    if ← accept .key then
      let k ← nodeUnless [.key, .value, .blockEnd] true true fuel
      let v ← valueUnless [.key, .value, .blockEnd] true fuel
      return (k, v) :: (← blockEntries fuel)
    else
      require .blockEnd
      return []

def flowItems (first : Bool) : Nat → Read (List Nat)
  | 0 => malformed
  | fuel + 1 => do
    if ← accept .flowListEnd then return []
    unless first do require .comma
    if ← accept .key then
      let item ← addCollection none (mapNode none) do
        let k ← nodeUnless [.value, .comma, .flowListEnd] false false fuel
        let v ← valueUnless [.comma, .flowListEnd] false fuel
        return .map [(k, v)]
      return item :: (← flowItems false fuel)
    else if ← accept .flowListEnd then return []
    else
      let n ← node false false fuel
      return n :: (← flowItems false fuel)

def flowEntries (first : Bool) : Nat → Read (List (Nat × Nat))
  | 0 => malformed
  | fuel + 1 => do
    if ← accept .flowMapEnd then return []
    unless first do require .comma
    if ← accept .key then
      let k ← nodeUnless [.value, .comma, .flowMapEnd] false false fuel
      let v ← valueUnless [.comma, .flowMapEnd] false fuel
      return (k, v) :: (← flowEntries false fuel)
    else if ← accept .flowMapEnd then return []
    else
      let n ← node false false fuel
      let v ← addEmpty
      return (n, v) :: (← flowEntries false fuel)

end

def directives (versioned : Bool) (handles : List (String × String)) :
    List Mark → Option (List (String × String) × List Mark)
  | .version major :: r => if versioned || major ≠ 1 then none else directives true handles r
  | .handle n t :: r =>
    if handles.any (·.1 == n) then none else directives versioned ((n, t) :: handles) r
  | .directive :: r => directives versioned handles r
  | ms => some (handles, ms)

def opening : Read Bool := do
  match ← next? with
  | some m =>
    if m matches .version _ | .handle _ _ | .directive | .documentStart then
      match directives false [] (← get).marks with
      | some (hs, ms) => modify fun s => { s with marks := ms, handles := hs ++ standardHandles }
      | none => malformed
      require .documentStart
      return true
    else return false
  | none => return false

def ends : List Mark :=
  [.directive, .documentStart, .documentEnd]

def atEnd : Read Bool := do
  match ← next? with
  | none => return true
  | some m => return m matches .version _ | .handle _ _ || ends.contains m

def document (fuel : Nat) : Read (Option Nat) := do
  if (← next?).isNone then return none
  let mayMiss ← opening
  let n ← if mayMiss && (← atEnd) then addEmpty else node true false fuel
  modify fun s => { s with marks := s.marks.dropWhile (· == .documentEnd) }
  if (← next?).isSome then
    discard opening
    malformed
  return some n

end Outline

def outline (room : Nat) (cs : List Char) : Except Flaw (Option (Graph × Nat)) := do
  let ms ← marks cs
  let (root, s) ← (Outline.document (3 * ms.length + 3)).run ⟨ms, #[], [], Outline.standardHandles, room⟩
  return root.map (s.graph, ·)

end UtilityCss.Document.Yaml
