import UtilityCss.Text.Word
import UtilityCss.Theme.Basic

namespace UtilityCss.Theme

def identifier (key : String) : String :=
  String.ofList (key.toList.map fun c => if Text.isNameChar c then c else '_')

def propertyStart : Category → String
  | .colors => "--color-"
  | .tokens .spacing => "--spacing-"
  | .tokens .fontSize => "--font-size-"
  | .tokens .borderRadius => "--radius-"
  | .tokens .shadows => "--shadow-"
  | .tokens .maxWidth => "--max-w-"

def tokenProperties (start key : String) : Color → List (String × String)
  | .flat v => [(start ++ identifier key, v)]
  | .scale shades => shades.entries.map fun s => (start ++ identifier key ++ "-" ++ identifier s.1, s.2)

def categoryProperties (t : Theme) (c : Category) : List (String × String) :=
  (t.category c).entries.flatMap fun e => tokenProperties (propertyStart c) e.1 e.2

def categories : List Category :=
  .colors :: Scale.all.map .tokens

def properties (t : Theme) : List (String × String) :=
  categories.flatMap t.categoryProperties

end UtilityCss.Theme
