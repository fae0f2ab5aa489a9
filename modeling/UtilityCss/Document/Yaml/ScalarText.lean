import UtilityCss.Document.Yaml.Cursor
import UtilityCss.Text.Digit

namespace UtilityCss.Document.Yaml

open Text Walk

def fold (lineEnd : Char) (empties : List Char) : List Char :=
  if lineEnd ≠ '\n' then lineEnd :: empties
  else if empties.isEmpty then [' ']
  else empties

def quotedEmpties : Nat → Walk (List Char)
  | 0 => malformed
  | fuel + 1 => do
    if (← get).atMarker then malformed
    skipRun isSpaceOrTab
    match ← takeBreak? with
    | some b => return b :: (← quotedEmpties fuel)
    | none => return []

def quotedBlanks (fuel : Nat) : Walk (List Char) := do
  let blanks ← run isSpaceOrTab
  if (← next?).isNone then malformed
  match ← takeBreak? with
  | some b => return fold b (← quotedEmpties fuel)
  | none => return blanks

def simpleEscapes : List (Char × Char) := [
  ('0', '\x00'), ('a', '\x07'), ('b', '\x08'), ('t', '\t'), ('\t', '\t'), ('n', '\n'), ('v', '\x0b'),
  ('f', '\x0c'), ('r', '\r'), ('e', '\x1b'), (' ', ' '), ('"', '"'), ('\\', '\\'), ('/', '/'),
  ('N', '\x85'), ('_', '\xa0'), ('L', '\u2028'), ('P', '\u2029')]

def hexEscapes : List (Char × Nat) :=
  [('x', 2), ('u', 4), ('U', 8)]

def codePoint (n : Nat) : Except Fault Nat :=
  if 0x7FFFFFFF < n then .error .codeTooLarge
  else if 0x10FFFF < n then .error .codeOutOfRange
  else .ok n

def escape (fuel : Nat) : Walk (List Nat) := do
  match ← next? with
  | none => malformed
  | some e =>
    if isBreak e then
      discard takeBreak?
      return (← quotedEmpties fuel).map Char.toNat
    else
      skip 1
      match simpleEscapes.find? (·.1 == e), hexEscapes.find? (·.1 == e) with
      | some p, _ => return [p.2.toNat]
      | none, some p =>
        let ds := (← get).rest.take p.2
        if ds.length < p.2 || !ds.all isHexDigit then malformed
        let n ← Flaw.ofFault (codePoint (ofDigitValues 16 (ds.map hexValue)))
        skip p.2
        return [n]
      | none, none => malformed

def isQuotedSpecial (c : Char) : Bool :=
  c == '\'' || c == '"' || c == '\\' || isSpaceOrTab c || isBreak c

def quotedWord (double : Bool) : Nat → Walk (List Nat)
  | 0 => malformed
  | fuel + 1 => do
    let word := (← run (!isQuotedSpecial ·)).map Char.toNat
    let s ← get
    match s.at? 0 with
    | none => return word
    | some c =>
      if !double && c = '\'' && s.at? 1 = some '\'' then
        skip 2
        return word ++ '\''.toNat :: (← quotedWord double fuel)
      else if (double && c = '\'') || (!double && (c = '"' || c = '\\')) then
        skip 1
        return word ++ c.toNat :: (← quotedWord double fuel)
      else if double && c = '\\' then
        skip 1
        return word ++ (← escape fuel) ++ (← quotedWord double fuel)
      else return word

def quotedBody (double : Bool) : Nat → Walk (List Nat)
  | 0 => malformed
  | fuel + 1 => do
    let word ← quotedWord double fuel
    if (← next?) = some (if double then '"' else '\'') then
      skip 1
      return word
    else return word ++ (← quotedBlanks fuel).map Char.toNat ++ (← quotedBody double fuel)

def quoted (double : Bool) : Walk (List Nat) := do
  skip 1
  quotedBody double ((← get).rest.length + 2)

def isFlowMark (c : Char) : Bool :=
  [',', '?', '[', ']', '\x7b', '\x7d'].contains c

def plainLength (inFlow : Bool) : List Char → Nat
  | [] => 0
  | c :: r =>
    if isSpaceOrTab c || isBreak c || (inFlow && isFlowMark c) then 0
    else if c = ':' && (endsWord r.head? || (inFlow && r.head?.any fun d => d ≠ '?' && isFlowMark d)) then 0
    else plainLength inFlow r + 1

def plainEmpties? : Nat → Walk (Option (List Char))
  | 0 => malformed
  | fuel + 1 => do
    if (← get).atMarker then return none
    skipRun (· == ' ')
    match ← takeBreak? with
    | some b => return (← plainEmpties? fuel).map (b :: ·)
    | none => return some []

def plainSpace (fuel : Nat) : Walk (List Char × Bool) := do
  let spaces ← run (· == ' ')
  match ← takeBreak? with
  | some b => return (((← plainEmpties? fuel).map (fold b)).getD [], true)
  | none => return (spaces, false)

def plainBody (inFlow : Bool) (column : Nat) (space : List Char) (ended : Bool) :
    Nat → Walk (List Char × Bool)
  | 0 => malformed
  | fuel + 1 => do
    let s ← get
    let n := plainLength inFlow s.rest
    if n = 0 then return ([], ended)
    skip n
    let word := space ++ s.rest.take n
    let (space, ended) ← plainSpace fuel
    let s ← get
    if space.isEmpty || s.at? 0 = some '#' || (!inFlow && s.column < column) then return (word, ended)
    let (more, ended) ← plainBody inFlow column space ended fuel
    return (word ++ more, ended)

def plain (inFlow : Bool) (column : Nat) : Walk (List Char × Bool) := do
  plainBody inFlow column [] false ((← get).rest.length + 2)

inductive Chomping where
  | clip | strip | keep
  deriving DecidableEq

def chomping? : Walk (Option Chomping) := do
  match ← next? with
  | some '+' => skip 1; return some .keep
  | some '-' => skip 1; return some .strip
  | _ => return none

def indentation? : Walk (Option Nat) := do
  match ← next? with
  | some c =>
    if '0' ≤ c && c ≤ '9' then
      if c = '0' then malformed
      skip 1
      return some (c.toNat - '0'.toNat)
    else return none
  | none => return none

def blockHeader : Walk (Chomping × Option Nat) := do
  let header ← match ← chomping? with
    | some c => pure (c, ← indentation?)
    | none =>
      let n ← indentation?
      match n with
      | some _ => pure ((← chomping?).getD .clip, n)
      | none => pure (.clip, none)
  match ← next? with
  | some c => unless c = ' ' || isBreak c do malformed
  | none => pure ()
  skipLineRest
  return header

def leadingEmpties (deepest : Nat) : Nat → Walk (List Char × Nat)
  | 0 => malformed
  | fuel + 1 => do
    skipRun (· == ' ')
    let deepest := max deepest (← get).column
    match ← takeBreak? with
    | some b =>
      let (bs, deepest) ← leadingEmpties deepest fuel
      return (b :: bs, deepest)
    | none => return ([], deepest)

def blockEmpties (indent : Nat) : Nat → Walk (List Char)
  | 0 => malformed
  | fuel + 1 => do
    skipToColumn indent
    match ← takeBreak? with
    | some b => return b :: (← blockEmpties indent fuel)
    | none => return []

def blockLines (folded : Bool) (indent : Nat) (before : List Char) :
    Nat → Walk (List Char × List Char × List Char)
  | 0 => malformed
  | fuel + 1 => do
    let s ← get
    if s.column ≠ indent || s.rest.isEmpty then return ([], [], before)
    let flush := !(s.at? 0).any isSpaceOrTab
    let line ← run (!isBreak ·)
    let lineEnd ← takeBreak?
    let empties ← blockEmpties indent fuel
    let t ← get
    if t.column = indent && !t.rest.isEmpty then
      let joint :=
        if folded && lineEnd = some '\n' && flush && !(t.at? 0).any isSpaceOrTab then
          if empties.isEmpty then [' '] else []
        else lineEnd.toList
      let (more, last, after) ← blockLines folded indent empties fuel
      return (before ++ line ++ joint ++ more, last, after)
    else return (before ++ line, lineEnd.toList, empties)

def block (folded : Bool) (outer : Option Nat) : Walk (List Char) := do
  skip 1
  let (chomping, given) ← blockHeader
  let least := max 1 ((outer.map (· + 1)).getD 0)
  let fuel := (← get).rest.length + 2
  let (indent, before) ← match given with
    | some n => pure (least + n - 1, ← blockEmpties (least + n - 1) fuel)
    | none =>
      let (bs, deepest) ← leadingEmpties 0 fuel
      pure (max least deepest, bs)
  let (body, last, after) ← blockLines folded indent before fuel
  match chomping with
  | .strip => return body
  | .clip => return body ++ last
  | .keep => return body ++ last ++ after

end UtilityCss.Document.Yaml
