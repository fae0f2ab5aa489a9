import UtilityCss.Proofs.Content.Files
import UtilityCss.Proofs.Files.Order
import UtilityCss.Proofs.Files.Outline
import UtilityCss.Proofs.Text.Pieces

namespace UtilityCss

def Path.Named (p : Path) : Prop :=
  p.absolute = true ∨ "/" ∉ p.parts

theorem Path.Named.under {dir p : Path} (hdir : dir.Named) (hp : p.Named) : (dir.under p).Named := by
  rw [Path.under]
  split
  · exact hp
  · rename_i hrelative
    refine hdir.imp_right fun hnames => ?_
    rw [List.mem_append, not_or]
    exact ⟨hnames, hp.resolve_left hrelative⟩

namespace Content

section Patterns

variable {α : Type} {f : List String → α} {ds : List Datum}

end Patterns

def Holds (t : Tree) (p : Path) (text : String) : Prop :=
  ∃ content stamp, t.node? p = some (.file content stamp) ∧ Tree.textOf? content = some text

def Uses (t : Tree) (p : Path) (c : String) : Prop :=
  ∃ text, Holds t p text ∧ c ∈ Markup.classes text

variable {t u : Tree} {p : Path}

theorem mem_classesOf {c : String} : c ∈ classesOf t p ↔ Uses t p c := by
  rw [classesOf]
  constructor
  · intro h
    split at h
    · rename_i content stamp hn
      cases ht : Tree.textOf? content with
      | none => simp [ht] at h
      | some text =>
        rw [ht] at h
        exact ⟨text, ⟨content, stamp, hn, ht⟩, h⟩
    · cases h
  · rintro ⟨text, ⟨content, stamp, hn, ht⟩, h⟩
    rw [hn]
    dsimp only
    rw [ht]
    exact h

namespace Search

def through (glob : Tree → Path → String → List String) : Search := fun t dir pattern =>
  (glob t.outline dir pattern).map fun s => dir.under (Path.ofText s)

variable {search : Search} {dir : Path}

theorem mem_classes {patterns : List String} {c : String} :
    c ∈ search.classes t dir patterns ↔ ∃ p ∈ search.files t dir patterns, Uses t p c := by
  rw [classes, List.mem_flatMap]
  simp only [mem_classesOf]

end Search

namespace Search

variable {search : Search} {dir : Path}

end Search

variable {place : Place} {dir : Path} {content : ByteArray} {patterns : List String} {c : String}

end Content

end UtilityCss
