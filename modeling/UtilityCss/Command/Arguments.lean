import UtilityCss.Build
import UtilityCss.Number.Reader

namespace UtilityCss.Command

inductive Request where
  | version
  | build (order : Order) (analyze watch : Bool) (interval : Number.Binary64)
  | resolve (tokens : List String) (config : Option Path) (groups : Bool)

structure OptionForm where
  name : String
  letter : Option Char
  valued : Bool

inductive Item where
  | option (name value : String)
  | operand (word : String)

def configForm : OptionForm := ⟨"config", some 'c', true⟩

def buildForms : List OptionForm :=
  [configForm, ⟨"minify", none, false⟩, ⟨"analyze", none, false⟩, ⟨"watch", some 'w', false⟩,
    ⟨"interval", none, true⟩]

def resolveForms : List OptionForm :=
  [configForm, ⟨"groups", none, false⟩]

def commonForms : List OptionForm :=
  [⟨"version", some 'V', false⟩, ⟨"verbose", some 'v', false⟩]

def letters (forms : List OptionForm) : List Char → Option (List Item × Option String)
  | [] => some ([], none)
  | c :: r => do
    let f ← forms.find? (·.letter == some c)
    if f.valued then
      if r.isEmpty then some ([], some f.name) else some ([.option f.name (String.ofList r)], none)
    else (letters forms r).map fun p => (.option f.name "" :: p.1, p.2)

def longOption (forms : List OptionForm) (body : List Char) : Option (List Item × Option String) :=
  match Text.cut? '=' body with
  | some (name, value) => do
    let f ← forms.find? fun f => f.name = String.ofList name
    if f.valued then some ([.option f.name (String.ofList value)], none) else none
  | none => do
    let f ← forms.find? fun f => f.name = String.ofList body
    if f.valued then some ([], some f.name) else some ([.option f.name ""], none)

def options? (forms : List OptionForm) (word : String) : Option (Option (List Item × Option String)) :=
  match word.toList with
  | '-' :: '-' :: body => some (longOption forms body)
  | '-' :: c :: r => some (letters forms (c :: r))
  | _ => none

def items (forms : List OptionForm) : List String → Option (List Item)
  | [] => some []
  | word :: rest =>
    if word = "--" then some (rest.map .operand)
    else
      match options? forms word with
      | none => (items forms rest).map (.operand word :: ·)
      | some none => none
      | some (some (is, none)) => (items forms rest).map (is ++ ·)
      | some (some (is, some name)) =>
        match rest with
        | value :: rest => (items forms rest).map fun js => is ++ .option name value :: js
        | [] => none

def operands (is : List Item) : List String :=
  is.filterMap fun i => match i with
    | .operand w => some w
    | .option .. => none

def value? (name : String) (is : List Item) : Option String :=
  is.reverse.findSome? fun i => match i with
    | .option n v => if n = name then some v else none
    | .operand _ => none

def given (name : String) (is : List Item) : Bool :=
  (value? name is).isSome

def defaultOutput : String := "dist/quantum.css"

def defaultInterval : String := "0.5"

def buildRequest (is : List Item) : Option Request := do
  let interval ← Number.Binary64.ofText? ((value? "interval" is).getD defaultInterval).toList
  let output ← match operands is with
    | [] => some defaultOutput
    | [word] => some word
    | _ => none
  let order : Order := ⟨(value? "config" is).map Path.ofText, .ofText output, given "minify" is⟩
  some (.build order (given "analyze" is) (given "watch" is) interval)

def resolveRequest (is : List Item) : Option Request :=
  if (operands is).isEmpty then none
  else some (.resolve (operands is) ((value? "config" is).map Path.ofText) (given "groups" is))

def milliseconds : Number.Binary64 → Nat
  | .finite false m e =>
    let x := Number.Binary64.magnitude m e
    Number.roundHalfEven (x.1 * 1000) x.2
  | _ => 0

def commandRequest : List String → Option Request
  | "build" :: rest => (items buildForms rest).bind buildRequest
  | "resolve" :: rest => (items resolveForms rest).bind resolveRequest
  | _ => none

def request : List String → Option Request
  | [] => none
  | word :: rest =>
    if word = "--" then commandRequest rest
    else match options? commonForms word with
      | some (some (is, none)) => if given "version" is then some .version else request rest
      | some _ => none
      | none => commandRequest (word :: rest)

end UtilityCss.Command
