import UtilityCss.Config.Cache
import UtilityCss.Content
import UtilityCss.Generation
import UtilityCss.Stylesheet.Minify

namespace UtilityCss

namespace Config

def generateFrom (c : Config) (t : Tree) (dir : Path) (banner : Bool) : Except Fault Generation :=
  c.generate (Content.classes t dir c.content) banner

end Config

structure Built where
  generation : Generation
  css : String

structure Order where
  config : Option Path
  output : Path
  minify : Bool

inductive BuildFault where
  | fault (f : Fault)
  | file (f : FileFault)

namespace Order

def render (o : Order) (c : Config) (t : Tree) : Except Fault Built :=
  (c.generateFrom t (Config.baseDir t o.config) false).map fun g =>
    if o.minify then ⟨g, c.withBanner "\n" (Stylesheet.minify g.css)⟩
    else ⟨g, c.withBanner "\n\n" g.css⟩

end Order

structure Project where
  tree : Tree
  cache : Config.Cache

namespace Project

abbrev Work := ExceptT BuildFault (StateM Project)

variable [Document.Host]

def reload (path : Option Path) : Work Config := do
  let p ← get
  match p.cache.reload p.tree path with
  | .ok r => set { p with cache := r.cache }; return r.config
  | .error f => throw (.fault f)

def writeOutput (o : Order) (b : Built) (stamp : Int) : Work Unit := do
  let p ← get
  let (r, tree) := p.tree.edit (Tree.save o.output b.css.toUTF8 stamp)
  set { p with tree }
  liftM (r.mapError BuildFault.file)

def build (o : Order) (stamp : Int) : Work Built := do
  let c ← reload o.config
  let b ← liftM ((o.render c (← get).tree).mapError BuildFault.fault)
  writeOutput o b stamp
  return b

end Project

end UtilityCss
