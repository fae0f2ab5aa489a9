import UtilityCss.Command.Arguments
import UtilityCss.Command.Grid
import UtilityCss.Document.Readers
import UtilityCss.Stylesheet.Statistics
import UtilityCss.Version
import UtilityCss.Watch

/-!
Running commands on a project: what is printed, what is written, and how a command ends. A watching build
goes on in rounds, each of which looks at the files once.
-/

namespace UtilityCss.Command

structure Session where
  project : Project
  printed : String
  saved : List (Path × String)

def Session.new (t : Tree) : Session :=
  ⟨⟨t, .empty⟩, "", []⟩

inductive Stop where
  | refused (text : String)
  | failed (f : BuildFault)
  | garbled (f : TagFault)

abbrev Act := ExceptT Stop (StateM Session)

def refusalText (why : Config.Refusal) (path : Path) : Except TagFault String :=
  (plainText ("[red]Error:[/red] " ++ path.toText ++ ": " ++ why.message)).map fun cs =>
    String.ofList ((Text.wrap .none .fold screenWidth cs).flatMap fun l => l ++ ['\n'])

def refuse {α : Type} (why : Config.Refusal) (path : Path) : Act α :=
  match refusalText why path with
  | .ok text => throw (.refused text)
  | .error f => throw (.garbled f)

def print (s : String) : Act Unit :=
  modify fun st => { st with printed := st.printed ++ s }

def printLine (s : String) : Act Unit :=
  print (s ++ "\n")

def printGrid (g : Grid) : Act Unit :=
  match g.text with
  | .ok text => print text
  | .error f => throw (.garbled f)

def orFail {α : Type} : Except Fault α → Act α
  | .ok a => return a
  | .error f => throw (.failed (.fault f))

instance : MonadLift (Except Fault) Act := ⟨orFail⟩

def tree : Act Tree :=
  return (← get).project.tree

def configFile (given : Option Path) : Act (Option Path) := do
  let t ← tree
  match given with
  | some p =>
    unless t.isFile p do refuse .missing p
    return some p
  | none => return Config.find? t t.homePath

def reportText (output : Path) (b : Built) : String :=
  "Built " ++ output.toText ++ " (" ++ Stylesheet.Statistics.kilobytes b.css.utf8ByteSize ++ "): "
    ++ toString b.generation.resolved.size ++ "/" ++ toString b.generation.tokens.length
    ++ " classes resolved"

def build (o : Order) : Act Built := do
  let s ← get
  match (Project.build o 0).run.run s.project with
  | (.ok b, project) =>
    set { s with project, saved := s.saved ++ [(o.output, b.css)] }
    printLine (reportText o.output b)
    return b
  | (.error f, project) =>
    set { s with project }
    throw (.failed f)

def analysis (css : String) : Grid :=
  ⟨"CSS Analysis", [⟨"Metric", .left⟩, ⟨"Value", .right⟩],
    (Stylesheet.Statistics.ofText css Vocabulary.breakpoints).rows.map fun r => [r.1, r.2]⟩

structure Watching where
  order : Order
  watch : Watch

def rebuild (o : Order) (changed : List Path) : Act Unit := do
  printLine ("Changes detected in " ++ toString changed.length ++ " file(s), rebuilding...")
  discard (build o)

def round (w : Watching) : Act Watching := do
  let watch ← w.watch.round (rebuild w.order) (← tree)
  return { w with watch }

def interrupt : Act Unit :=
  printLine "Stopped watching."

def runBuild (o : Order) (analyze watch : Bool) : Act (Option Watching) := do
  let o := { o with config := ← configFile o.config }
  let b ← build o
  if analyze then printGrid (analysis b.css)
  if watch then
    printLine "Watching for changes (Ctrl+C to stop)..."
    return some ⟨o, ← orFail ((Watch.new o.config).start (← tree))⟩
  else return none

def groupGrid (token : String) (rules : List Rule) : Grid :=
  ⟨token, ["Selector", "Breakpoint", "Mode", "Rules"].map fun h => ⟨h, .left⟩,
    rules.map fun r => [Selector.build Vocabulary.variants token r.context,
      r.context.breakpoint.getD "", r.context.mode.getD "", " ".intercalate r.lines]⟩

def runResolve (tokens : List String) (config : Option Path) (groups : Bool) : Act Unit := do
  let config ← configFile config
  let c ← orFail (Config.reload (← tree) config)
  let r := c.resolver
  for token in tokens do
    let rules ← orFail (r.resolve [] token)
    if rules.isEmpty then printLine ("/* " ++ token ++ ": no rules */")
    else
      if groups then printGrid (groupGrid token rules)
      print (Stylesheet.emit ⟨none, none⟩ r.breakpoints (.ofList [(token, rules)]))

def run : Request → Act (Option Watching)
  | .version => do printLine ("QuantumCSS " ++ version); return none
  | .build o analyze watch _ => runBuild o analyze watch
  | .resolve tokens config groups => do runResolve tokens config groups; return none

end UtilityCss.Command
