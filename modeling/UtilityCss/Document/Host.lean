import UtilityCss.Datum
import UtilityCss.Document.Flaw
import UtilityCss.Document.Format

namespace UtilityCss.Document

/-- What a configuration depends on besides its file: the readers of the formats, the checker's way with texts
that hold halves of characters, and the depth of the call stack. -/
class Host where
  read : Format → List Char → Except Flaw Datum
  /-- the text that stands for one with halves of characters, unless the checker refuses it -/
  joined? : List Nat → Option String
  /-- how many calls may be open at once while a map of tokens is turned into texts -/
  calls : Nat
  /-- enough for the categories of a theme, the colours in one and the shades of a colour -/
  three_le_calls : 3 ≤ calls

end UtilityCss.Document
