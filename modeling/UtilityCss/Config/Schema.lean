import UtilityCss.Config.Basic
import UtilityCss.Document.Host

/-!
Checking a document: what a configuration, or a theme, may look like. All faults are found, in the order
of the schema, each with the path to it.
-/

namespace UtilityCss.Schema

inductive Issue where
  | notText | unreadableText | notMap | notList | notTruth | unreadableTruth | notRecord | badKey
  | tooLong
  /-- a map of tokens that uses up the calls: no finding, but the end of all checking -/
  | endless
  deriving DecidableEq

structure Finding where
  issue : Issue
  path : List String

abbrev Checked (α : Type) := Except (List Finding) α

open Document (Host)

variable {α β : Type} [Host]

def fail (issue : Issue) (path : List String) : Checked α :=
  .error [⟨issue, path⟩]

def findings : Checked α → List Finding
  | .ok _ => []
  | .error fs => fs

def both (f : Checked (α → β)) (x : Checked α) : Checked β :=
  match f, x with
  | .ok f, .ok x => .ok (f x)
  | f, x => .error (findings f ++ findings x)

def every : List (Checked α) → Checked (List α)
  | [] => .ok []
  | c :: cs => both (c.map List.cons) (every cs)

def joinedText (path : List String) (codes : List Nat) : Checked String :=
  match Host.joined? codes with
  | some s => .ok s
  | none => fail .unreadableText path

def scalarText (path : List String) : Scalar → Checked String
  | .text s => .ok s
  | .bytes content =>
    match Scalar.decoded? content with
    | some s => .ok s
    | none => fail .unreadableText path
  | .halves codes => joinedText path codes
  | _ => fail .notText path

def text (path : List String) : Datum → Checked String
  | .scalar s => scalarText path s
  | _ => fail .notText path

def token (path : List String) : Datum → Checked String
  | .scalar (.int n) => .ok (Scalar.int n).toText
  | .scalar (.float x) => .ok (Scalar.float x).toText
  | d => text path d

def scalarObstacle? : Scalar → Option Issue
  | .int n => if Scalar.isTooLong n then some .tooLong else none
  | _ => none

mutual

/-- Why a value in a map of tokens, and what a map there holds, cannot be turned into texts with so many calls.
A value takes one, besides those that its own values take. -/
def obstacle? : Datum → Nat → Option Issue
  | _, 0 => some .endless
  | .map entries, calls + 1 => entryObstacle? entries calls
  | .deep, _ + 1 => some .endless
  | .scalar s, _ + 1 => scalarObstacle? s
  | _, _ + 1 => none

def entryObstacle? : List (Scalar × Datum) → Nat → Option Issue
  | [], _ => none
  | (k, d) :: r, calls => ((obstacle? d calls).or (scalarObstacle? k)).or (entryObstacle? r calls)

end

def textKeys (entries : List (Scalar × Datum)) : Table Scalar Datum :=
  .ofList (entries.map fun e => (e.1.asText, e.2))

def tokenKey (path : List String) (k : Scalar) : Checked String :=
  scalarText (path ++ [k.pathText, "[key]"]) k

def table (check : List String → Datum → Checked α) (path : List String)
    (entries : List (Scalar × Datum)) : Checked (Table String α) :=
  (every ((textKeys entries).entries.map fun e =>
    both ((tokenKey path e.1).map Prod.mk) (check (path ++ [e.1.pathText]) e.2))).map Table.ofList

def shades (path : List String) : Datum → Checked (Table String String)
  | .map entries => table token path entries
  | _ => fail .notMap path

def tokenMap (check : List String → Datum → Checked α) (path : List String) :
    Datum → Checked (Table String α)
  | .map entries =>
    match obstacle? (.map entries) Host.calls with
    | some i => fail i path
    | none => table check path entries
  | .deep => fail .endless path
  | _ => fail .notMap path

def tokens : List String → Datum → Checked (Table String String) :=
  tokenMap token

/-- A colour is a text or a map of shades; what is neither is found wanting as both. -/
def color (path : List String) (d : Datum) : Checked Color :=
  match token (path ++ ["str"]) d with
  | .ok s => .ok (.flat s)
  | .error fs =>
    match shades (path ++ ["dict[str,str]"]) d with
    | .ok t => .ok (.scale t)
    | .error gs => .error (fs ++ gs)

def colors : List String → Datum → Checked (Table String Color) :=
  tokenMap color

def named? (names : List String) (entries : List (Scalar × Datum)) : Option (String × Datum) :=
  names.findSome? fun n => (Datum.field? n entries).map (n, ·)

def scaleNames (s : Scale) : List String :=
  [s.label, s.fieldName]

def optional (names : List String) (check : List String → Datum → Checked α) (path : List String)
    (entries : List (Scalar × Datum)) : Checked (Option α) :=
  match named? names entries with
  | some (n, d) => (check (path ++ [n]) d).map some
  | none => .ok none

def nullable (check : List String → Datum → Checked α) (path : List String) : Datum → Checked (Option α)
  | .scalar .null => .ok none
  | d => (check path d).map some

def category (names : List String) (check : List String → Datum → Checked (Table String α))
    (path : List String) (entries : List (Scalar × Datum)) : Checked (Option (Table String α)) :=
  (optional names (nullable check) path entries).map Option.join

def usedNames (fields : List (List String)) (entries : List (Scalar × Datum)) : List String :=
  fields.filterMap fun names => (named? names entries).map Prod.fst

def extraNames (used : List String) (path : List String) (entries : List (Scalar × Datum)) :
    Checked (List String) :=
  (every (entries.map fun e =>
    match e.1 with
    | .text s => .ok (if used.contains s then [] else [s])
    | .halves codes =>
      match Host.joined? codes with
      | some s => .ok [s]
      | none => fail .badKey (path ++ [e.1.pathText])
    | k => fail .badKey (path ++ [k.pathText]))).map List.flatten

def categoryFields : List (List String) :=
  ["colors"] :: Scale.all.map scaleNames

def categories (path : List String) (entries : List (Scalar × Datum)) :
    Checked (List String → Theme.Overrides) :=
  let scale := fun s => category (scaleNames s) tokens path entries
  both (both (both (both (both ((category ["colors"] colors path entries).map Theme.Overrides.mk)
    (scale .spacing)) (scale .fontSize)) (scale .borderRadius)) (scale .shadows)) (scale .maxWidth)

def overrides (path : List String) : Datum → Checked Theme.Overrides
  | .map entries =>
    both (categories path entries) (extraNames (usedNames categoryFields entries) path entries)
  | _ => fail .notRecord path

def adjustment (path : List String) : Datum → Checked Theme.Adjustment
  | .map entries =>
    let extend := (optional ["extend"] overrides path entries).map (·.getD .none)
    let used := usedNames (categoryFields ++ [["extend"]]) entries
    let make := fun (own : List String → Theme.Overrides) (extend : Theme.Overrides)
      (extra : List String) => Theme.Adjustment.mk (own extra) extend
    both (both ((categories path entries).map make) extend) (extraNames used path entries)
  | _ => fail .notRecord path

def falseWords : List String := ["0", "off", "f", "false", "n", "no"]

def trueWords : List String := ["1", "on", "t", "true", "y", "yes"]

def wordEnd : Nat :=
  Nat.pow 2 63

def wholeTruth (path : List String) (n : Int) : Checked Bool :=
  if n = 0 then .ok false
  else if n = 1 then .ok true
  else if -(wordEnd : Int) ≤ n && n < wordEnd then fail .unreadableTruth path
  else fail .notTruth path

def integer? (x : Number.Binary64) : Option Int :=
  match (Scalar.float x).ratio? with
  | some (n, d) =>
    if n % d = 0 && (n / d).natAbs < wordEnd then some (n / d) else none
  | none => none

def wordTruth (path : List String) (s : String) : Checked Bool :=
  let word := String.ofList (s.toList.map Char.toLower)
  if falseWords.contains word then .ok false
  else if trueWords.contains word then .ok true
  else fail .unreadableTruth path

def truth (path : List String) : Datum → Checked Bool
  | .scalar (.bool b) => .ok b
  | .scalar (.text s) => wordTruth path s
  | .scalar (.bytes content) =>
    match Scalar.decoded? content with
    | some s => wordTruth path s
    | none => fail .unreadableTruth path
  | .scalar (.halves codes) => (joinedText path codes).bind fun _ => fail .unreadableTruth path
  | .scalar (.int n) => wholeTruth path n
  | .scalar (.float x) =>
    match integer? x with
    | some n => wholeTruth path n
    | none => fail .notTruth path
  | _ => fail .notTruth path

def banner (path : List String) : Datum → Checked (Option String)
  | .scalar .null => .ok none
  | d => (text path d).map some

def patterns (path : List String) : Datum → Checked (List String)
  | .scalar (.text s) => .ok [s]
  | .scalar (.halves codes) => (scalarText (path ++ ["0"]) (.halves codes)).map ([·])
  | .list items => every ((items.zipIdx).map fun e => text (path ++ [toString e.2]) e.1)
  | .set items => every ((items.zipIdx).map fun e => scalarText (path ++ [toString e.2]) e.1)
  | _ => fail .notList path

def presets (path : List String) : Datum → Checked (Table String String)
  | .map entries =>
    (every (entries.map fun e =>
      both ((tokenKey path e.1).map Prod.mk) (text (path ++ [e.1.pathText]) e.2))).map Table.ofList
  | _ => fail .notMap path

def withDefault (names : List String) (check : List String → Datum → Checked α) (default : α)
    (entries : List (Scalar × Datum)) : Checked α :=
  (optional names check [] entries).map (·.getD default)

def config : Datum → Checked Config
  | .map entries =>
    let content := withDefault ["content"] patterns [] entries
    let theme := withDefault ["theme"] adjustment .none entries
    let presets := withDefault ["componentPresets", "component_presets"] presets .empty entries
    let preflight := withDefault ["preflight"] truth false entries
    let banner := withDefault ["banner"] banner none entries
    both (both (both (both (content.map Config.mk) theme) presets) preflight) banner
  | _ => fail .notRecord []

def theme : Datum → Checked Theme
  | .map entries =>
    let scale := fun (s : Scale) => withDefault (scaleNames s) tokens .empty entries
    let colors := withDefault ["colors"] colors .empty entries
    both (both (both (both (both (colors.map Theme.mk)
      (scale .spacing)) (scale .fontSize)) (scale .borderRadius)) (scale .shadows)) (scale .maxWidth)
  | _ => fail .notRecord []

end UtilityCss.Schema
