import UtilityCss.Command.Run

/-!
The program: reads the files of the working directory, runs the command, and writes what comes of it.
-/

namespace UtilityCss.Program

partial def addEntry (at_ : Place) (t : Tree) (e : IO.FS.DirEntry) : IO Tree := do
  let here := at_ ++ [e.fileName]
  try
    let data ← e.path.metadata
    if data.type == .dir then
      let t := { t with nodes := t.nodes.insert here .folder }
      (← e.path.readDir).foldlM (addEntry here) t
    else
      let stamp := data.modified.sec * 1000000000 + data.modified.nsec.toNat
      return t.write here (← IO.FS.readBinFile e.path) stamp
  catch _ => return t

def addFolder (t : Tree) (dir : String) : IO Tree := do
  let real ← IO.FS.realPath dir
  let place := (Path.ofText (toString real)).parts
  let t := (t.edit (Tree.makeFolder ⟨true, place⟩)).2
  (← real.readDir).foldlM (addEntry place) t

def readTree (config : Option Path) : IO Tree := do
  let home := (Path.ofText (toString (← IO.currentDir))).parts
  let t ← addFolder ⟨.empty, home⟩ "."
  match config with
  | none => return t
  | some p =>
    let dir := (t.resolved p).parent
    if home.isPrefixOf dir.parts then return t
    else try addFolder t dir.toText catch _ => return t

def settle (s : Command.Session) : IO Command.Session := do
  for (p, css) in s.saved do
    IO.FS.createDirAll p.parent.toText
    IO.FS.writeFile p.toText css
  IO.print s.printed
  (← IO.getStdout).flush
  return { s with printed := "", saved := [] }

def stopText : Command.Stop → String
  | .refused text => text
  | .garbled f => f.message ++ "\n"
  | .failed (.fault f) => f.message ++ "\n"
  | .failed (.file f) => f.message ++ "\n"

partial def watchOn (pause : Nat) (w : Command.Watching) (s : Command.Session) : IO UInt32 := do
  IO.sleep pause.toUInt32
  let t ← readTree w.order.config
  match (Command.round w).run.run { s with project := { s.project with tree := t } } with
  | (.ok w, s) => watchOn pause w (← settle s)
  | (.error e, s) =>
    discard (settle s)
    IO.eprint (stopText e)
    return 1

def start (args : List String) : IO UInt32 := do
  match Command.request args with
  | none =>
    IO.eprintln "Usage: build [OUTPUT] [--config FILE] [--minify] [--analyze] [--watch] [--interval SECONDS]"
    IO.eprintln "       resolve TOKENS... [--config FILE] [--groups]"
    return 2
  | some q =>
    let config := match q with
      | .build o _ _ _ => o.config
      | .resolve _ c _ => c
      | .version => none
    let pause := match q with
      | .build _ _ _ interval => Command.milliseconds interval
      | _ => 0
    let t ← readTree config
    match (Command.run q).run.run (.new t) with
    | (.ok none, s) => discard (settle s); return 0
    | (.ok (some w), s) => watchOn pause w (← settle s)
    | (.error e, s) =>
      discard (settle s)
      IO.eprint (stopText e)
      return 1

end UtilityCss.Program

def main (args : List String) : IO UInt32 :=
  UtilityCss.Program.start args
