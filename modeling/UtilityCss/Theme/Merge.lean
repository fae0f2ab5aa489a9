import UtilityCss.Theme.Defaults

namespace UtilityCss.Theme

structure Overrides where
  colors : Option (Table String Color)
  spacing : Option (Table String String)
  fontSize : Option (Table String String)
  borderRadius : Option (Table String String)
  shadows : Option (Table String String)
  maxWidth : Option (Table String String)
  extra : List String

namespace Overrides

def none : Overrides :=
  ⟨.none, .none, .none, .none, .none, .none, []⟩

def tokens (o : Overrides) : Scale → Option (Table String String)
  | .spacing => o.spacing
  | .fontSize => o.fontSize
  | .borderRadius => o.borderRadius
  | .shadows => o.shadows
  | .maxWidth => o.maxWidth

end Overrides

structure Adjustment where
  own : Overrides
  extend : Overrides

namespace Adjustment

def none : Adjustment := ⟨.none, .none⟩

end Adjustment

variable {α : Type}

def mergeCategory (base : Table String α) (own extension : Option (Table String α)) : Table String α :=
  (own.getD base).update (extension.getD .empty)

def merge (base : Theme) (a : Adjustment) : Theme :=
  ofTokens (mergeCategory base.colors a.own.colors a.extend.colors) fun s =>
    mergeCategory (base.tokens s) (a.own.tokens s) (a.extend.tokens s)

end UtilityCss.Theme
