import UtilityCss.Document.Host
import UtilityCss.Document.Json
import UtilityCss.Document.Toml.Statement
import UtilityCss.Document.Yaml.Read

namespace UtilityCss.Document

def Format.read (room : Nat) : Format → List Char → Except Flaw Datum
  | json => Json.read room
  | yaml => Yaml.read room
  | toml => Toml.read room

/-- The host with the usual limit on open calls, whose checker refuses halves of characters. -/
instance : Host where
  read := Format.read 1000
  joined? _ := none
  calls := 1000
  three_le_calls := by decide

end UtilityCss.Document
