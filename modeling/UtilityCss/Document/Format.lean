namespace UtilityCss.Document

inductive Format where
  | json
  | yaml
  | toml
  deriving DecidableEq

namespace Format

def name : Format → String
  | json => "JSON"
  | yaml => "YAML"
  | toml => "TOML"

def ofSuffix? (suffix : String) : Option Format :=
  match String.ofList (suffix.toList.map Char.toLower) with
  | ".json" => some json
  | ".yaml" => some yaml
  | ".yml" => some yaml
  | ".toml" => some toml
  | _ => none

end Format

end UtilityCss.Document
