import UtilityCss.Fault
import UtilityCss.Table
import UtilityCss.Text.Blank

namespace UtilityCss

inductive Values where
  | shared (value : String)
  | each (values : List String)

structure Declaration where
  properties : List String
  values : Values
  variants : List String

/-- Properties that take one value from the class name: from a category of the theme first, then from
words of their own. -/
structure PropertyGroup where
  properties : List String
  lookup : Option String
  keywords : Table String String

inductive Entry where
  | declaration (d : Declaration)
  | group (g : PropertyGroup)
  | preset (classes : String)

def Declaration.pairs (d : Declaration) : Except Fault (List (String × String)) :=
  match d.values with
  | .shared v => .ok (d.properties.map (·, v))
  | .each vs =>
    if vs.length < d.properties.length then .error .tooFewValues
    else if d.properties.length < vs.length then .error .tooManyValues
    else .ok (d.properties.zip vs)

def Entry.presetClasses? : Entry → Option (List String)
  | preset classes => some (Text.wordsOf classes)
  | _ => none

end UtilityCss
