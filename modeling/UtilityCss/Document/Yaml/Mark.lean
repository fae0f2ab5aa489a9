import UtilityCss.Document.Yaml.ScalarText
import UtilityCss.Text.Word

namespace UtilityCss.Document.Yaml

open Text

inductive Mark where
  | version (major : Nat)
  | handle (name start : String)
  | directive
  | documentStart
  | documentEnd
  | listStart
  | mapStart
  | blockEnd
  | flowListStart
  | flowListEnd
  | flowMapStart
  | flowMapEnd
  | item
  | comma
  | key
  | value
  | alias (name : String)
  | anchor (name : String)
  | tag (handle : Option String) (rest : String)
  | scalar (codes : List Nat) (plain : Bool)
  | broken (fault : Fault)
  deriving DecidableEq

/-- A place where a key on one line may have started. -/
structure Candidate where
  position : Nat
  required : Bool
  line : Nat
  column : Nat
  index : Nat

structure Scan where
  cursor : Cursor
  marks : Array Mark
  depth : Nat
  columns : List Nat
  keyAllowed : Bool
  candidates : List (Nat × Candidate)

namespace Scan

abbrev Step := StateT Scan (Except Flaw)

def start (cs : List Char) : Scan :=
  ⟨.start cs, #[], 0, [], true, []⟩

def malformed {α : Type} : Step α :=
  throw .malformed

def walk {α : Type} (w : Walk α) : Step α := do
  let s ← get
  let (a, cursor) ← w s.cursor
  set { s with cursor }
  return a

def emit (m : Mark) : Step Unit :=
  modify fun s => { s with marks := s.marks.push m }

def allowKey (allowed : Bool) : Step Unit :=
  modify fun s => { s with keyAllowed := allowed }

def inFlow : Step Bool :=
  return (← get).depth != 0

def peek? (k : Nat) : Step (Option Char) :=
  return (← get).cursor.at? k

def isStale (c : Cursor) (k : Candidate) : Bool :=
  k.line ≠ c.line || 1024 < c.index - k.index

def dropStale : Step Unit := do
  let s ← get
  let stale := s.candidates.filter fun p => isStale s.cursor p.2
  if stale.any fun p => p.2.required then malformed
  set { s with candidates := s.candidates.filter fun p => !isStale s.cursor p.2 }

def candidate? : Step (Option Candidate) := do
  let s ← get
  return (s.candidates.find? fun p => p.1 = s.depth).map Prod.snd

def eraseCandidate : Step Unit :=
  modify fun s => { s with candidates := s.candidates.filter fun p => p.1 ≠ s.depth }

def forgetCandidate : Step Unit := do
  if (← candidate?).any fun k => k.required then malformed
  eraseCandidate

def noteCandidate : Step Unit := do
  let s ← get
  if s.keyAllowed then
    forgetCandidate
    let c := s.cursor
    let required := s.depth = 0 && s.columns.head? = some c.column
    let k : Candidate := ⟨s.marks.size, required, c.line, c.column, c.index⟩
    modify fun s => { s with candidates := (s.depth, k) :: s.candidates }

def closeTo (column : Option Nat) : Step Unit := do
  let s ← get
  if s.depth = 0 then
    let isInside := fun n => match column with
      | some c => c < n
      | none => true
    let closed := s.columns.takeWhile isInside
    set { s with
      columns := s.columns.drop closed.length
      marks := s.marks ++ Array.replicate closed.length Mark.blockEnd }

def indentTo (column : Nat) : Step Bool := do
  let s ← get
  if s.columns.head?.all (· < column) then
    set { s with columns := column :: s.columns }
    return true
  else return false

def insertAt (position : Nat) (ms : List Mark) : Step Unit :=
  modify fun s =>
    { s with
      marks := s.marks.extract 0 position ++ ms.toArray ++ s.marks.extract position s.marks.size }

def skipBlank : Nat → Step Unit
  | 0 => malformed
  | fuel + 1 => do
    walk (Walk.skipRun (· == ' '))
    if (← peek? 0) = some '#' then walk (Walk.skipRun (!isBreak ·))
    if (← walk Walk.takeBreak?).isSome then
      unless ← inFlow do allowKey true
      skipBlank fuel

def name : Walk String := do
  let cs ← Walk.run isNameChar
  if cs.isEmpty then Walk.malformed
  return String.ofList cs

def anchorName : Walk String := do
  Walk.skip 1
  let n ← name
  match ← Walk.next? with
  | some c =>
    unless endsWord (some c) || ['?', ':', ',', ']', '\x7d', '%', '@', '\x60'].contains c do
      Walk.malformed
  | none => pure ()
  return n

def tagHandle : Walk String := do
  unless (← Walk.next?) = some '!' do Walk.malformed
  Walk.skip 1
  if (← Walk.next?) = some ' ' then return "!"
  let n ← Walk.run isNameChar
  unless (← Walk.next?) = some '!' do Walk.malformed
  Walk.skip 1
  return String.ofList ('!' :: n ++ ['!'])

def isUriChar (c : Char) : Bool :=
  isNameChar c || [';', '/', '?', ':', '@', '&', '=', '+', '$', ',', '.', '!', '~', '*', '\'', '(', ')',
    '[', ']', '%'].contains c

def uriBytes? : List Char → Option (List UInt8 × List Char)
  | '%' :: a :: b :: r =>
    if isHexDigit a && isHexDigit b then
      (uriBytes? r).map fun p => (UInt8.ofNat (hexValue a * 16 + hexValue b) :: p.1, p.2)
    else none
  | '%' :: _ => none
  | cs => some ([], cs)

def unescaped? : Nat → List Char → Option (List Char)
  | 0, _ => none
  | _ + 1, [] => some []
  | fuel + 1, '%' :: r => do
    let (bytes, rest) ← uriBytes? ('%' :: r)
    return (← String.fromUTF8? ⟨bytes.toArray⟩).toList ++ (← unescaped? fuel rest)
  | fuel + 1, c :: r => (unescaped? fuel r).map (c :: ·)

def tagText : Walk String := do
  let cs ← Walk.run isUriChar
  if cs.isEmpty then Walk.malformed
  match unescaped? (cs.length + 1) cs with
  | some t => return String.ofList t
  | none => Walk.malformed

def endTag : Walk Unit := do
  match ← Walk.next? with
  | some c => unless c = ' ' || isBreak c do Walk.malformed
  | none => return

def tag : Walk Mark := do
  let s ← get
  match s.at? 1 with
  | some '<' =>
    Walk.skip 2
    let t ← tagText
    unless (← Walk.next?) = some '>' do Walk.malformed
    Walk.skip 1
    endTag
    return .tag none t
  | c =>
    if endsWord c then
      Walk.skip 1
      endTag
      return .tag none "!"
    else
      let word := (s.rest.drop 1).takeWhile fun c => c ≠ ' ' && !isBreak c
      let h ← if word.contains '!' then tagHandle else do Walk.skip 1; pure "!"
      let t ← tagText
      endTag
      return .tag (some h) t

def versionNumber : Walk Nat := do
  let ds ← Walk.run isAsciiDigit
  if ds.isEmpty then Walk.malformed
  return ofDecimalDigits ds

def directive : Walk Mark := do
  Walk.skip 1
  let n ← name
  endTag
  let m ← if n = "YAML" then do
      Walk.skipRun (· == ' ')
      let major ← versionNumber
      unless (← Walk.next?) = some '.' do Walk.malformed
      Walk.skip 1
      discard versionNumber
      endTag
      pure (Mark.version major)
    else if n = "TAG" then do
      Walk.skipRun (· == ' ')
      let h ← tagHandle
      unless (← Walk.next?) = some ' ' do Walk.malformed
      Walk.skipRun (· == ' ')
      let t ← tagText
      endTag
      pure (Mark.handle h t)
    else do
      Walk.skipRun (!isBreak ·)
      pure Mark.directive
  Walk.skipLineRest
  return m

def single (m : Mark) : Step Unit := do
  walk (Walk.skip 1)
  emit m

def documentMark (m : Mark) : Step Unit := do
  closeTo none
  forgetCandidate
  allowKey false
  walk (Walk.skip 3)
  emit m

def openFlow (m : Mark) : Step Unit := do
  noteCandidate
  modify fun s => { s with depth := s.depth + 1 }
  allowKey true
  single m

def closeFlow (m : Mark) : Step Unit := do
  unless ← inFlow do malformed
  forgetCandidate
  modify fun s => { s with depth := s.depth - 1 }
  allowKey false
  single m

def openBlock (m : Mark) : Step Unit := do
  let s ← get
  unless s.keyAllowed do malformed
  if ← indentTo s.cursor.column then emit m

def item : Step Unit := do
  unless ← inFlow do openBlock .listStart
  allowKey true
  forgetCandidate
  single .item

def explicitKey : Step Unit := do
  let flow ← inFlow
  unless flow do openBlock .mapStart
  allowKey (!flow)
  forgetCandidate
  single .key

def value : Step Unit := do
  let flow ← inFlow
  match ← candidate? with
  | some k =>
    eraseCandidate
    let opens ← if flow then pure false else indentTo k.column
    insertAt k.position (if opens then [.mapStart, .key] else [.key])
    allowKey false
  | none =>
    unless flow do openBlock .mapStart
    allowKey (!flow)
    forgetCandidate
  single .value

def simple (w : Walk Mark) : Step Unit := do
  noteCandidate
  allowKey false
  emit (← walk w)

def quotedScalar (double : Bool) : Walk Mark := do
  return .scalar (← quoted double) false

def plainScalar : Step Unit := do
  noteCandidate
  let s ← get
  let (cs, ended) ← walk (plain (s.depth != 0) ((s.columns.head?.map (· + 1)).getD 0))
  allowKey ended
  emit (.scalar (cs.map Char.toNat) true)

def blockScalar (folded : Bool) : Step Unit := do
  allowKey true
  forgetCandidate
  let s ← get
  emit (.scalar ((← walk (block folded s.columns.head?)).map Char.toNat) false)

def indicators : List Char :=
  ['-', '?', ':', ',', '[', ']', '\x7b', '\x7d', '#', '&', '*', '!', '|', '>', '\'', '"', '%', '@', '\x60']

def startsPlain (flow : Bool) (c : Char) (next : Option Char) : Bool :=
  !(endsWord (some c) || indicators.contains c)
    || (!endsWord next && (c = '-' || (!flow && (c = '?' || c = ':'))))

def next (c : Char) : Step Unit := do
  let s ← get
  let flow := s.depth != 0
  let follows := s.cursor.at? 1
  let front := s.cursor.column = 0
  if c = '%' && front then
    closeTo none; forgetCandidate; allowKey false
    emit (← walk directive)
  else if c = '-' && front && s.cursor.atMarker then documentMark .documentStart
  else if c = '.' && front && s.cursor.atMarker then documentMark .documentEnd
  else if c = '[' then openFlow .flowListStart
  else if c = '\x7b' then openFlow .flowMapStart
  else if c = ']' then closeFlow .flowListEnd
  else if c = '\x7d' then closeFlow .flowMapEnd
  else if c = ',' then allowKey true; forgetCandidate; single .comma
  else if c = '-' && endsWord follows then item
  else if c = '?' && (flow || endsWord follows) then explicitKey
  else if c = ':' && (flow || endsWord follows) then value
  else if c = '*' then simple do return .alias (← anchorName)
  else if c = '&' then simple do return .anchor (← anchorName)
  else if c = '!' then simple tag
  else if c = '|' && !flow then blockScalar false
  else if c = '>' && !flow then blockScalar true
  else if c = '\'' then simple (quotedScalar false)
  else if c = '"' then simple (quotedScalar true)
  else if startsPlain flow c follows then plainScalar
  else malformed

def settled (s : Scan) : Array Mark :=
  let positions := (s.candidates.filter fun p => !isStale s.cursor p.2).map fun p => p.2.position
  s.marks.take (positions.foldl min s.marks.size)

def toEnd : Nat → Step Unit
  | 0 => malformed
  | fuel + 1 => do
    let before ← get
    skipBlank (fuel + 1)
    dropStale
    let s ← get
    closeTo (some s.cursor.column)
    match s.cursor.at? 0 with
    | some c =>
      match (next c).run (← get) with
      | .ok (_, after) => set after; toEnd fuel
      | .error (.value f) => set { before with marks := before.settled.push (.broken f) }
      | .error .malformed => malformed
    | none =>
      closeTo none
      forgetCandidate

end Scan

def isPrintable (c : Char) : Bool :=
  c == '\t' || c == '\n' || c == '\r' || (0x20 ≤ c.toNat && c.toNat ≤ 0x7E) || c == '\x85'
    || (0xA0 ≤ c.toNat && c.toNat ≤ 0xFFFD) || 0x10000 ≤ c.toNat

def marks (cs : List Char) : Except Flaw (List Mark) := do
  unless cs.all isPrintable do throw .malformed
  let start := Scan.start cs
  let start := if cs.head? = some '\uFEFF' then { start with cursor := start.cursor.step } else start
  let (_, s) ← (Scan.toEnd (2 * cs.length + 2)).run start
  return s.marks.toList

end UtilityCss.Document.Yaml
