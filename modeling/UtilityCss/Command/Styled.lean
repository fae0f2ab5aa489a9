import UtilityCss.Command.Style
import UtilityCss.Text.Pictograph

namespace UtilityCss.Command

open Text

inductive TagFault where
  | unmatched (tag : String) (position : Nat)
  | nothingOpen (position : Nat)
  deriving DecidableEq

def TagFault.message : TagFault → String
  | unmatched tag position =>
    "closing tag '[" ++ tag ++ "]' at position " ++ toString position ++ " doesn't match any open tag"
  | nothingOpen position =>
    "closing tag '[/]' at position " ++ toString position ++ " has nothing to close"

def startsTag (c : Char) : Bool :=
  ('a' ≤ c && c ≤ 'z') || c == '#' || c == '/' || c == '@'

def tag? (cs : List Char) : Option (List Char × List Char) :=
  let inside := cs.takeWhile fun c => c != '[' && c != ']'
  match cs.dropWhile fun c => c != '[' && c != ']' with
  | ']' :: rest => if inside.head?.any startsTag then some (inside, rest) else none
  | _ => none

inductive Piece where
  | text (cs : List Char)
  | tag (inside : List Char) (position : Nat)

/-- The pieces of a styled text. Of the backslashes before a tag half are shown, and an odd one takes the
tag for text. `before` holds the text that no piece has yet, the latest character first. -/
def tagPieces : Nat → Nat → List Char → List Char → List Piece
  | 0, _, before, _ => [.text before.reverse]
  | fuel + 1, position, before, cs =>
    let slashes := cs.takeWhile (· == '\\')
    let count := slashes.length
    match cs.drop count with
    | [] => [.text (before.reverse ++ slashes)]
    | c :: r =>
      match if c = '[' then tag? r else none with
      | some (inside, rest) =>
        let next := position + count + inside.length + 2
        .text before.reverse :: .text (List.replicate (count / 2) '\\')
          :: (if count % 2 = 1 then .text ('[' :: inside ++ [']'])
            else .tag inside (position + count))
          :: tagPieces fuel next [] rest
      | none => tagPieces fuel (position + count + 1) (c :: slashes ++ before) r

def showBrackets : List Char → List Char
  | '\\' :: '[' :: r => '[' :: showBrackets r
  | c :: r => c :: showBrackets r
  | [] => []

def isDropped (c : Char) : Bool :=
  ['\x07', '\x08', '\x0B', '\x0C', '\r'].contains c

def shown (cs : List Char) : List Char :=
  (withPictographs (cs.length + 1) (showBrackets cs)).filter fun c => !isDropped c

def tagName (inside : List Char) : List Char :=
  ((cut? '=' inside).map Prod.fst).getD inside

def textOf (opened : List String) : List Piece → Except TagFault (List Char)
  | [] => .ok []
  | .text cs :: r => (textOf opened r).map (shown cs ++ ·)
  | .tag inside position :: r =>
    match tagName inside with
    | '/' :: name =>
      if (trim name).isEmpty then
        if opened.isEmpty then .error (.nothingOpen position) else textOf opened.tail r
      else
        let style := Style.normal (String.ofList (trim name))
        if opened.contains style then textOf (opened.erase style) r
        else .error (.unmatched (String.ofList inside) position)
    | name => textOf (Style.normal (String.ofList name) :: opened) r

def plainText (s : String) : Except TagFault (List Char) :=
  textOf [] (tagPieces (s.toList.length + 1) 0 [] s.toList)

end UtilityCss.Command
