import UtilityCss.Datum
import UtilityCss.Table

namespace UtilityCss

inductive Color where
  | flat (value : String)
  | scale (shades : Table String String)

inductive Scale where
  | spacing | fontSize | borderRadius | shadows | maxWidth
  deriving DecidableEq

inductive Category where
  | colors
  | tokens (scale : Scale)
  deriving DecidableEq

namespace Scale

def all : List Scale :=
  [spacing, fontSize, borderRadius, shadows, maxWidth]

def label : Scale → String
  | spacing => "spacing"
  | fontSize => "fontSize"
  | borderRadius => "borderRadius"
  | shadows => "shadows"
  | maxWidth => "maxWidth"

def fieldName : Scale → String
  | spacing => "spacing"
  | fontSize => "font_size"
  | borderRadius => "border_radius"
  | shadows => "shadows"
  | maxWidth => "max_width"

end Scale

namespace Category

def ofName? (name : String) : Option Category :=
  if name = "colors" then some colors
  else (Scale.all.find? fun s => s.label = name || s.fieldName = name).map tokens

end Category

structure Theme where
  colors : Table String Color
  spacing : Table String String
  fontSize : Table String String
  borderRadius : Table String String
  shadows : Table String String
  maxWidth : Table String String

namespace Theme

def empty : Theme :=
  ⟨.empty, .empty, .empty, .empty, .empty, .empty⟩

def tokens (t : Theme) : Scale → Table String String
  | .spacing => t.spacing
  | .fontSize => t.fontSize
  | .borderRadius => t.borderRadius
  | .shadows => t.shadows
  | .maxWidth => t.maxWidth

def ofTokens (colors : Table String Color) (tokens : Scale → Table String String) : Theme :=
  ⟨colors, tokens .spacing, tokens .fontSize, tokens .borderRadius, tokens .shadows, tokens .maxWidth⟩

def category (t : Theme) : Category → Table String Color
  | .colors => t.colors
  | .tokens s => (t.tokens s).map .flat

@[simp] theorem tokens_ofTokens (c : Table String Color) (f : Scale → Table String String) (s : Scale) :
    (ofTokens c f).tokens s = f s := by
  cases s <;> rfl

end Theme

def Color.toText : Color → String
  | flat v => v
  | scale shades => (Datum.map (shades.entries.map fun e => (.text e.1, .scalar (.text e.2)))).toText

end UtilityCss
