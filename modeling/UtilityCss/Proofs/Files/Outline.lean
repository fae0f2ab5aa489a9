import UtilityCss.Files.Glob
import UtilityCss.Proofs.Outcome
import UtilityCss.Proofs.Table

namespace UtilityCss

def Node.outline : Node → Node
  | folder => folder
  | file .. => file .empty 0

namespace Tree

def outline (t : Tree) : Tree :=
  { t with nodes := t.nodes.map Node.outline }

variable (t : Tree)

variable {t}

end Tree

end UtilityCss
