import UtilityCss.Files.Tree
import UtilityCss.Pattern.Name

namespace UtilityCss

namespace Tree

def isHidden (name : String) : Bool :=
  name.toList.head? = some '.'

def below (t : Tree) (at_ : Place) : List (List String) :=
  t.nodes.keys.filterMap fun k =>
    let rest := k.drop at_.length
    if at_.isPrefixOf k && !rest.isEmpty && !rest.any isHidden then some rest else none

def globPart (t : Tree) (dir : Path) (part : String) : List (List String) :=
  match t.locate dir with
  | .error _ => []
  | .ok at_ =>
    if !t.isFolderAt at_ then []
    else if !Path.isPlain part then [[]]
    else if part = "**" then [] :: t.below at_
    else if Pattern.hasWildcard part then
      ((t.names at_).filter fun n =>
        (isHidden part || !isHidden n) && Pattern.matchesName part n).map fun n => [n]
    else if (t.node? (dir.child part)).isSome then [[part]]
    else []

def globFrom (t : Tree) (dir : Path) : List String → List Path
  | [] => [dir]
  | part :: parts =>
    (t.globPart dir part).flatMap fun more => t.globFrom ⟨dir.absolute, dir.parts ++ more⟩ parts

def glob (t : Tree) (dir : Path) (pattern : String) : List Path :=
  let parts := Text.pieces '/' pattern
  if parts.head? = some "" && 1 < parts.length then t.globFrom ⟨true, []⟩ parts
  else t.globFrom dir parts

end Tree

end UtilityCss
