import UtilityCss.Datum
import UtilityCss.Files.Glob
import UtilityCss.Markup
import UtilityCss.Pattern.Braces

namespace UtilityCss.Content

def patternTexts : List Datum → Except String (List String)
  | [] => .ok []
  | .scalar (.text s) :: r => (patternTexts r).map (s :: ·)
  | d :: _ => .error d.kindName

def refusal (kind : String) : String :=
  "Content pattern must be a string, got " ++ kind

def ofPatterns {α : Type} (f : List String → α) (patterns : List Datum) : Except String α :=
  match patternTexts patterns with
  | .ok texts => .ok (f texts)
  | .error kind => .error (refusal kind)

def root (t : Tree) (base : Option String) : Path :=
  (base.map Path.ofText).getD t.homePath

abbrev Search := Tree → Path → String → List Path

def distinct (ps : List Path) : List Path :=
  ps.foldr (fun p qs => if qs.contains p then qs else p :: qs) []

def classesOf (t : Tree) (p : Path) : List String :=
  match t.node? p with
  | some (.file content _) => ((Tree.textOf? content).map Markup.classes).getD []
  | _ => []

namespace Search

variable (search : Search) (t : Tree) (dir : Path)

def matching (pattern : String) : List Path :=
  (Pattern.expandBraces pattern).flatMap fun p => (search t dir p).filter t.isFile

def files (patterns : List String) : List Path :=
  Path.sorted (distinct (patterns.flatMap (search.matching t dir)))

def classes (patterns : List String) : List String :=
  (search.files t dir patterns).flatMap (classesOf t)

def expand (base : Option String) (patterns : List Datum) : Except String (List Path) :=
  ofPatterns (search.files t (root t base)) patterns

def scan (base : Option String) (patterns : List Datum) : Except String (List String) :=
  ofPatterns (search.classes t (root t base)) patterns

end Search

def matching : Tree → Path → String → List Path :=
  Search.matching Tree.glob

def files : Tree → Path → List String → List Path :=
  Search.files Tree.glob

def classes : Tree → Path → List String → List String :=
  Search.classes Tree.glob

end UtilityCss.Content
