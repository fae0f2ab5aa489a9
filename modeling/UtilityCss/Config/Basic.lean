import UtilityCss.Theme.Merge

namespace UtilityCss

structure Config where
  content : List String
  theme : Theme.Adjustment
  presets : Table String String
  preflight : Bool
  banner : Option String

namespace Config

def standard : Config :=
  ⟨[], .none, .empty, false, none⟩

instance : Inhabited Config := ⟨standard⟩

end Config

end UtilityCss
