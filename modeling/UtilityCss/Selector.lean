import UtilityCss.Rule
import UtilityCss.Text.Cut
import UtilityCss.Text.Digit

namespace UtilityCss.Selector

open Text

def special : List Char :=
  ":[]/.\\%#(),!&@*+'\"=<>~?\x7b\x7d$^|;".toList

def escapeChar (leading : Bool) (c : Char) : List Char :=
  if leading && isDigitLike c then ['\\', '3', c, ' ']
  else if special.contains c then ['\\', c]
  else [c]

/-- Escapes a class name. A digit at the front, or behind a hyphen at the front, is written by its
code. -/
def escape : List Char → List Char
  | [] => []
  | '-' :: d :: r => '-' :: escapeChar true d ++ r.flatMap (escapeChar false)
  | c :: r => escapeChar true c ++ r.flatMap (escapeChar false)

def escapeClass (name : String) : String :=
  String.ofList (escape name.toList)

def withVariant (variants : Table String String) (selector variant : String) : String :=
  let suffix := (variants.get? variant).getD (":" ++ variant)
  if (after? Vocabulary.groupMark.toList variant.toList).isSome then ".group" ++ suffix ++ " " ++ selector
  else selector ++ suffix

def place (custom selector : String) : String :=
  String.ofList (replaceChar '&' selector.toList custom.toList)

def build (variants : Table String String) (token : String) (c : Context) : String :=
  let own := "." ++ escapeClass token
  let stated := match c.variant with
    | some v => withVariant variants own v
    | none => own
  match c.selector with
  | some custom => if custom.isEmpty then stated else place custom stated
  | none => stated

end UtilityCss.Selector
