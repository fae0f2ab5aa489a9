import UtilityCss.Config.Load

/-!
A cache of loaded configurations by place. An entry holds as long as its file keeps its stamp; a file that
gives no configuration has none.
-/

namespace UtilityCss.Config

structure Cached where
  stamp : Int
  config : Config
  reading : Nat

structure Cache where
  entries : Table Place Cached
  readings : Nat

namespace Cache

def empty : Cache :=
  ⟨.empty, 0⟩

instance : Inhabited Cache := ⟨empty⟩

def size (c : Cache) : Nat :=
  c.entries.size

def fresh? (c : Cache) (at_ : Place) (stamp : Int) : Option Cached :=
  (c.entries.get? at_).filter fun e => e.stamp = stamp

def store (c : Cache) (at_ : Place) (stamp : Int) (config : Config) : Cache :=
  ⟨c.entries.insert at_ ⟨stamp, config, c.readings⟩, c.readings + 1⟩

def forget (c : Cache) (at_ : Place) : Cache :=
  { c with entries := c.entries.erase at_ }

def invalidate (c : Cache) (t : Tree) : Option Path → Cache
  | none => { c with entries := .empty }
  | some p => c.forget (p.resolve t.home)

structure Reload where
  config : Config
  reading : Option Nat
  cache : Cache

variable [Document.Host]

def read (c : Cache) (t : Tree) (at_ : Place) (stamp : Int) : Except Fault Reload :=
  match load t ⟨true, at_⟩ with
  | .ok config => .ok ⟨config, some c.readings, c.store at_ stamp config⟩
  | .error (.refused _) => .ok ⟨.standard, none, c.forget at_⟩
  | .error (.fault f) => .error f

def reload (c : Cache) (t : Tree) : Option Path → Except Fault Reload
  | none => .ok ⟨.standard, none, c⟩
  | some p =>
    let at_ := p.resolve t.home
    match t.stamp? ⟨true, at_⟩ with
    | none => .ok ⟨.standard, none, c.forget at_⟩
    | some stamp =>
      match c.fresh? at_ stamp with
      | some e => .ok ⟨e.config, some e.reading, c⟩
      | none => c.read t at_ stamp

end Cache

end UtilityCss.Config
