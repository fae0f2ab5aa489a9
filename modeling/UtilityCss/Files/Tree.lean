import UtilityCss.Files.Path
import UtilityCss.Table
import UtilityCss.Text.Lines

/-!
File trees. Every file has its bytes and a stamp, which changes when the file is written; a tree also has a
working directory, where paths that are not absolute start. `get?_write` and `get?_remove` say what
writing and removing do to the files.
-/

namespace UtilityCss

inductive FileFault where
  | missing
  | isFolder
  | notFolder
  | taken
  deriving DecidableEq

def FileFault.message : FileFault → String
  | missing => "No such file or directory"
  | isFolder => "Is a directory"
  | notFolder => "Not a directory"
  | taken => "File exists"

inductive Node where
  | folder
  | file (content : ByteArray) (stamp : Int)

def Node.stamp? : Node → Option Int
  | folder => none
  | file _ stamp => some stamp

def Node.isFolder : Node → Bool
  | folder => true
  | file .. => false

abbrev Place := List String

structure Tree where
  nodes : Table Place Node
  home : Place

namespace Tree

def get? (t : Tree) (at_ : Place) : Option Node :=
  if at_.isEmpty then some .folder else t.nodes.get? at_

def isFolderAt (t : Tree) (at_ : Place) : Bool :=
  (t.get? at_).any Node.isFolder

def walk (t : Tree) (here : Place) : List String → Except FileFault Place
  | [] => if (t.get? here).isSome then .ok here else .error .missing
  | p :: ps =>
    match t.get? here with
    | none => .error .missing
    | some (.file ..) => .error .notFolder
    | some .folder =>
      if p = ".." then t.walk here.dropLast ps
      else if p = "." then t.walk here ps
      else t.walk (here ++ [p]) ps

def base (t : Tree) (p : Path) : Place :=
  if p.absolute then [] else t.home

def locate (t : Tree) (p : Path) : Except FileFault Place :=
  t.walk (t.base p) p.parts

def node? (t : Tree) (p : Path) : Option Node :=
  (t.locate p).toOption.bind t.get?

def isFile (t : Tree) (p : Path) : Bool :=
  (t.node? p).any fun n => !n.isFolder

def isFolder (t : Tree) (p : Path) : Bool :=
  (t.node? p).any Node.isFolder

def stamp? (t : Tree) (p : Path) : Option Int :=
  (t.node? p).bind Node.stamp?

def resolved (t : Tree) (p : Path) : Path :=
  ⟨true, p.resolve t.home⟩

def homePath (t : Tree) : Path :=
  ⟨true, t.home⟩

def names (t : Tree) (at_ : Place) : List String :=
  t.nodes.keys.filterMap fun k =>
    if at_.isPrefixOf k && k.length = at_.length + 1 then k.getLast? else none

def write (at_ : Place) (content : ByteArray) (stamp : Int) (t : Tree) : Tree :=
  { t with nodes := t.nodes.insert at_ (.file content stamp) }

def remove (at_ : Place) (t : Tree) : Tree :=
  { t with nodes := ⟨t.nodes.entries.filter fun e => !at_.isPrefixOf e.1,
      t.nodes.distinct.sublist (List.filter_sublist.map _)⟩ }

theorem get?_write {at_ : Place} (h : at_ ≠ []) (content : ByteArray) (stamp : Int) (t : Tree)
    (other : Place) : (t.write at_ content stamp).get? other =
      if at_ = other then some (.file content stamp) else t.get? other := by
  unfold get? write
  cases other with
  | nil => simp [h]
  | cons n ns => simp [Table.get?_insert]

/-- A change of a tree. Where it fails, what it has done before stays done. -/
abbrev Edit := ExceptT FileFault (StateM Tree)

def edit (e : Edit Unit) (t : Tree) : Except FileFault Unit × Tree :=
  e.run.run t

/-- Makes the folder that parts lead to from a place, with those missing on the way. A file in the way is
told apart by whether a folder has been made for it. -/
def makeFolders (made : Bool) (here : Place) : List String → Edit Unit
  | [] => return ()
  | p :: ps => do
    if p = ".." then makeFolders made here.dropLast ps
    else
      let next := here ++ [p]
      let t ← get
      match t.get? next with
      | none =>
        set { t with nodes := t.nodes.insert next .folder }
        makeFolders true next ps
      | some .folder => makeFolders made next ps
      | some (.file ..) => throw (if ps.isEmpty || made then .taken else .notFolder)

def makeFolder (p : Path) : Edit Unit := do
  makeFolders false ((← get).base p) p.parts

def target (t : Tree) (p : Path) : Except FileFault Place := do
  if t.isFolder p then throw .isFolder
  let dir ← t.locate p.parent
  unless t.isFolderAt dir do throw .notFolder
  return dir ++ [p.name]

def save (p : Path) (content : ByteArray) (stamp : Int) : Edit Unit := do
  makeFolder p.parent
  let t ← get
  set (t.write (← t.target p) content stamp)

def touch (p : Path) (stamp : Int) : Edit Unit := do
  let t ← get
  let at_ ← t.locate p
  match t.get? at_ with
  | some (.file content _) => set (t.write at_ content stamp)
  | _ => return ()

def delete (p : Path) : Edit Unit := do
  let t ← get
  set (t.remove (← t.locate p))

def bytes (p : Path) (t : Tree) : Except FileFault ByteArray := do
  match t.get? (← t.locate p) with
  | some (.file content _) => return content
  | _ => throw .isFolder

def textOf? (content : ByteArray) : Option String :=
  (String.fromUTF8? content).map fun s => String.ofList (Text.plainLineEnds s.toList)

end Tree

end UtilityCss
