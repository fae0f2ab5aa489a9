import UtilityCss.Stylesheet.Layout

namespace UtilityCss.Stylesheet

def indent : String := "  "

def unlines (lines : List String) : String :=
  "\n".intercalate lines

def indented (text : String) : String :=
  unlines ((Text.pieces '\n' text).map fun l => if l.isEmpty then l else indent ++ l)

def braces (head body : String) : String :=
  head ++ " \x7b\n" ++ body ++ "\n\x7d"

def Block.text (b : Block) : String :=
  braces b.selector (unlines (b.lines.map (indent ++ ·)))

def rootText (properties : List (String × String)) : String :=
  if properties.isEmpty then ":root \x7b\n\x7d"
  else Block.text ⟨":root", Rule.linesOf properties⟩

def Section.text : Section → String
  | root properties => rootText properties
  | verbatim text => text
  | base blocks => unlines (blocks.map Block.text)
  | media query blocks => braces ("@media " ++ query) (unlines (blocks.map (indented ·.text)))

def render (sections : List Section) : String :=
  "\n\n".intercalate (sections.map Section.text) ++ "\n"

def emit (o : Opening) (breakpoints : Table String String) (rules : Table String (List Rule)) : String :=
  render (sections o breakpoints rules)

end UtilityCss.Stylesheet
