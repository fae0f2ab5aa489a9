import UtilityCss.Document.Toml.Table
import UtilityCss.Document.Toml.Value

namespace UtilityCss.Document.Toml

open Text Reader

structure Inline where
  entries : Entries
  fixed : List (List String)

def Inline.assign (key : List String) (value : Datum) (t : Inline) : Option Inline :=
  if t.fixed.any fun p => p.isPrefixOf key then none
  else (within false (addNew (key.getLastD "") value) key.dropLast t.entries).map fun es =>
    ⟨es, if Draft.isNested value then key :: t.fixed else t.fixed⟩

def orMalformed {α : Type} : Option α → Reader α
  | some a => return a
  | none => malformed

mutual

def value (room : Nat) : Nat → Reader Datum
  | 0 => malformed
  | fuel + 1 => do
    match ← next? with
    | some '"' => return .scalar (.text (String.ofList (← quotedText)))
    | some '\'' => return .scalar (.text (String.ofList (← quotedText)))
    | some '[' =>
      let room ← deeper .others 2 room
      drop 1
      return .list (← items room fuel)
    | some '\x7b' =>
      let room ← deeper .others 3 room
      drop 1; skipSpace
      if ← accept ['\x7d'] then return .map []
      return .map (← inlineTable room fuel ⟨[], []⟩).entries
    | _ => return .scalar (← bare)

def items (room : Nat) : Nat → Reader (List Datum)
  | 0 => malformed
  | fuel + 1 => do
    skipBetween
    if ← accept [']'] then return []
    let d ← value room fuel
    skipBetween
    if ← accept [']'] then return [d]
    require [',']
    return d :: (← items room fuel)

def inlineTable (room : Nat) : Nat → Inline → Reader Inline
  | 0, _ => malformed
  | fuel + 1, t => do
    let k ← key
    require ['=']
    skipSpace
    let d ← value room fuel
    let t ← orMalformed (t.assign k d)
    skipSpace
    if ← accept ['\x7d'] then return t
    require [',']
    skipSpace
    inlineTable room fuel t

end

def entry (room : Nat) (draft : Draft) : Reader Draft := do
  let k ← key
  require ['=']
  skipSpace
  let d ← value room (2 * (← get).length + 2)
  orMalformed (draft.assign k d)

def header (draft : Draft) : Reader Draft := do
  require ['[']
  if ← accept ['['] then
    skipSpace
    let draft ← orMalformed (draft.openItem (← key))
    require [']', ']']
    return draft
  else
    skipSpace
    let draft ← orMalformed (draft.openTable (← key))
    require [']']
    return draft

def statement (room : Nat) (draft : Draft) : Reader Draft := do
  skipSpace
  let draft ← match ← next? with
    | some '[' => header draft
    | some c =>
      if isNameChar c || c = '"' || c = '\'' then entry room draft
      else if c = '\n' || c = '#' then pure draft
      else malformed
    | none => pure draft
  skipSpace
  skipComment
  return draft

def statements (room : Nat) : Nat → Draft → Reader Draft
  | 0, draft => return draft
  | fuel + 1, draft => do
    let draft ← statement room draft
    match ← next? with
    | none => return draft
    | some _ => require ['\n']; statements room fuel draft

def plainBreaks : List Char → List Char
  | '\r' :: '\n' :: r => '\n' :: plainBreaks r
  | c :: r => c :: plainBreaks r
  | [] => []

def read (room : Nat) (cs : List Char) : Except Flaw Datum :=
  let text := plainBreaks cs
  (statements room (text.length + 1) .empty text).map fun p => .map p.1.root

end UtilityCss.Document.Toml
