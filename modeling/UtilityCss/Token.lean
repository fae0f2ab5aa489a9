import UtilityCss.Text.Cut
import UtilityCss.Vocabulary

namespace UtilityCss

structure Words where
  breakpoints : List String
  variants : List String
  modes : List String

def Words.ofBreakpoints (breakpoints : Table String String) : Words :=
  ⟨breakpoints.keys, Vocabulary.variants.keys, Vocabulary.modes⟩

structure Token where
  raw : String
  base : String
  negated : Bool
  breakpoint : Option String
  variant : Option String
  mode : Option String

namespace Token

structure Setting where
  breakpoint : Option String
  variant : Option String
  mode : Option String

/-- The setting after one more word: a breakpoint before a mode before a variant, the last of each kind
replacing the one before. -/
def Setting.read? (w : Words) (s : Setting) (word : String) : Option Setting :=
  if w.breakpoints.contains word then some { s with breakpoint := some word }
  else if w.modes.contains word then some { s with mode := some word }
  else if w.variants.contains word then some { s with variant := some word }
  else none

def readWords (w : Words) (s : Setting) : List String → Setting × List String
  | [] => (s, [])
  | [last] => (s, [last])
  | word :: next :: rest =>
    match s.read? w word with
    | some s' => readWords w s' (next :: rest)
    | none => (s, word :: next :: rest)

def splitSign (s : String) : Bool × String :=
  match s.toList with
  | '-' :: r => (true, String.ofList r)
  | _ => (false, s)

def parse (w : Words) (raw : String) : Token :=
  let (outer, body) := splitSign raw
  let (setting, segments) := readWords w ⟨none, none, none⟩ (Text.pieces ':' body)
  let (inner, base) := splitSign (":".intercalate segments)
  ⟨raw, base, outer || inner, setting.breakpoint, setting.variant, setting.mode⟩

end Token

end UtilityCss
