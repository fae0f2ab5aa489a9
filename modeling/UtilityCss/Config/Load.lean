import UtilityCss.Config.Schema
import UtilityCss.Files.Tree

namespace UtilityCss.Config

open Document (Host)

inductive Refusal where
  | missing
  | unreadable
  | malformed (format : Document.Format)
  | unsupported (suffix : String)
  | notMap (kind : String)
  | invalid (findings : List Schema.Finding)

def Refusal.message : Refusal → String
  | missing => "Config file not found"
  | unreadable => "Cannot read config"
  | malformed format => "Invalid " ++ format.name
  | unsupported suffix => "Unsupported config format '" ++ suffix ++ "'"
  | notMap kind => "Config must be a mapping, got " ++ kind
  | invalid _ => "Invalid config schema"

inductive LoadFault where
  | refused (why : Refusal)
  | fault (f : Fault)

def fileNames : List String :=
  ["quantum.config.json", "quantum.config.yaml", "quantum.config.yml", "quantum.config.toml"]

def find? (t : Tree) (dir : Path) : Option Path :=
  (fileNames.map dir.child).find? t.isFile

def baseDir (t : Tree) : Option Path → Path
  | none => t.homePath
  | some p => (t.resolved p).parent

def LoadFault.ofFindings (fs : List Schema.Finding) : LoadFault :=
  if fs.any fun f => f.issue = .endless then .fault (.tooDeep .tokens) else .refused (.invalid fs)

variable [Host]

/-- The configuration that the value of a document gives. Nothing counts as an empty map. -/
def ofDocument : Datum → Except LoadFault Config
  | .map entries => (Schema.config (.map entries)).mapError .ofFindings
  | .scalar .null => (Schema.config (.map [])).mapError .ofFindings
  | d => .error (.refused (.notMap d.kindName))

def ofText (format : Document.Format) (text : String) : Except LoadFault Config :=
  match Host.read format text.toList with
  | .ok d => ofDocument d
  | .error .malformed => .error (.refused (.malformed format))
  | .error (.value f) => .error (.fault f)

def load (t : Tree) (p : Path) : Except LoadFault Config :=
  match t.node? p with
  | some (.file content _) =>
    match Tree.textOf? content, Document.Format.ofSuffix? p.suffix with
    | none, _ => .error (.refused .unreadable)
    | some _, none => .error (.refused (.unsupported p.suffix))
    | some text, some format => ofText format text
  | _ => .error (.refused .missing)

def reload (t : Tree) : Option Path → Except Fault Config
  | none => .ok standard
  | some p =>
    match load t (t.resolved p) with
    | .ok c => .ok c
    | .error (.refused _) => .ok standard
    | .error (.fault f) => .error f

theorem load_missing {t : Tree} {p : Path} (h : t.isFile p = false) :
    load t p = .error (.refused .missing) := by
  unfold load
  unfold Tree.isFile at h
  split
  · rename_i hn
    simp [hn, Node.isFolder] at h
  · rfl

end UtilityCss.Config
