import UtilityCss.Datum

namespace UtilityCss.Document.Toml

abbrev Entries := List (Scalar × Datum)

def within (lists : Bool) (change : Entries → Option Entries) : List String → Entries → Option Entries
  | [], t => change t
  | k :: ks, t =>
    let put := fun d => Datum.putEntry (.text k) d t
    match Datum.field? k t with
    | none => (within lists change ks []).map fun u => put (.map u)
    | some (.map u) => (within lists change ks u).map fun u => put (.map u)
    | some (.list ds) =>
      match lists, ds.getLast? with
      | true, some (.map u) =>
        (within lists change ks u).map fun u => put (.list (ds.dropLast ++ [.map u]))
      | _, _ => none
    | some _ => none

def addNew (k : String) (d : Datum) (t : Entries) : Option Entries :=
  if (Datum.field? k t).isSome then none else some (t ++ [(.text k, d)])

def appendTable (k : String) (t : Entries) : Option Entries :=
  match Datum.field? k t with
  | none => some (t ++ [(.text k, .list [.map []])])
  | some (.list ds) => some (Datum.putEntry (.text k) (.list (ds ++ [.map []])) t)
  | some _ => none

/-- Which paths are closed: a `fixed` one with all below it, an `opened` one against a second header. -/
structure Marks where
  fixed : List (List String)
  opened : List (List String)
  pending : List (List String)

namespace Marks

def empty : Marks :=
  ⟨[], [], []⟩

def isFixed (m : Marks) (path : List String) : Bool :=
  m.fixed.any fun p => p.isPrefixOf path

def isOpened (m : Marks) (path : List String) : Bool :=
  m.opened.contains path

def fix (path : List String) (m : Marks) : Marks :=
  { m with fixed := path :: m.fixed }

def open_ (path : List String) (m : Marks) : Marks :=
  { m with opened := path :: m.opened }

def forget (path : List String) (m : Marks) : Marks :=
  { m with
    fixed := m.fixed.filter fun p => !path.isPrefixOf p
    opened := m.opened.filter fun p => !path.isPrefixOf p }

def postpone (paths : List (List String)) (m : Marks) : Marks :=
  { m with pending := paths ++ m.pending }

def settle (m : Marks) : Marks :=
  { m with opened := m.pending ++ m.opened, pending := [] }

end Marks

structure Draft where
  root : Entries
  marks : Marks
  header : List String

namespace Draft

def empty : Draft :=
  ⟨[], .empty, []⟩

def openTable (path : List String) (d : Draft) : Option Draft :=
  let marks := d.marks.settle
  if marks.isOpened path || marks.isFixed path then none
  else (within true some path d.root).map fun root => ⟨root, marks.open_ path, path⟩

def openItem (path : List String) (d : Draft) : Option Draft :=
  let marks := d.marks.settle
  if marks.isFixed path then none
  else (within true (appendTable (path.getLastD "")) path.dropLast d.root).map fun root =>
    ⟨root, (marks.forget path).open_ path, path⟩

def waypoints (header key : List String) : List (List String) :=
  (List.range (key.length - 1)).map fun i => header ++ key.take (i + 1)

def isNested : Datum → Bool
  | .scalar _ => false
  | _ => true

def assign (key : List String) (value : Datum) (d : Draft) : Option Draft :=
  let ways := waypoints d.header key
  let parent := d.header ++ key.dropLast
  if ways.any d.marks.isOpened || d.marks.isFixed parent then none
  else (within true (addNew (key.getLastD "") value) parent d.root).map fun root =>
    let marks := d.marks.postpone ways
    ⟨root, if isNested value then marks.fix (d.header ++ key) else marks, d.header⟩

end Draft

end UtilityCss.Document.Toml
