import UtilityCss.Config.Load
import UtilityCss.Content

/-!
Watching: the configuration file and the content files of a project, with the stamps they had when they
were last looked at.
-/

namespace UtilityCss

structure Watch where
  config : Option Path
  stamps : Table Path Int

namespace Watch

def new (config : Option Path) : Watch :=
  ⟨config, .empty⟩

def changes (before after : Table Path Int) : List Path :=
  Path.sorted ((after.keys.filter fun p => before.get? p ≠ after.get? p)
    ++ before.keys.filter fun p => !after.contains p)

theorem mem_changes {before after : Table Path Int} {p : Path} :
    p ∈ changes before after ↔ before.get? p ≠ after.get? p := by
  have absent : ∀ {t : Table Path Int}, p ∉ t.keys ↔ t.get? p = none := by
    intro t
    rw [← Table.contains_iff, Table.contains, Option.isSome_iff_ne_none, ne_eq, Decidable.not_not]
  simp only [changes, Path.sorted, List.mem_mergeSort, List.mem_append, List.mem_filter,
    decide_eq_true_eq]
  constructor
  · rintro (⟨_, h⟩ | ⟨hb, ha⟩)
    · exact h
    · intro he
      have : after.get? p = none := by
        simpa [Table.contains] using ha
      rw [this] at he
      exact absent.2 he hb
  · intro h
    by_cases ha : p ∈ after.keys
    · exact Or.inl ⟨ha, h⟩
    · refine Or.inr ⟨?_, ?_⟩
      · by_cases hb : p ∈ before.keys
        · exact hb
        · rw [absent.1 ha, absent.1 hb] at h
          exact absurd rfl h
      · simp [Table.contains, absent.1 ha]

theorem changes_eq_nil {before after : Table Path Int} (h : ∀ p, before.get? p = after.get? p) :
    changes before after = [] :=
  List.eq_nil_iff_forall_not_mem.2 fun p hp => mem_changes.1 hp (h p)

variable [Document.Host]

def files (t : Tree) (config : Option Path) : Except Fault (List Path) :=
  (Config.reload t config).map fun c =>
    (config.map t.resolved).toList ++ Content.files t (Config.baseDir t config) c.content

def snapshot (t : Tree) (config : Option Path) : Except Fault (Table Path Int) :=
  (files t config).map fun ps => .ofList (ps.filterMap fun p => (t.stamp? p).map fun s => (p, s))

def start (w : Watch) (t : Tree) : Except Fault Watch :=
  (snapshot t w.config).map fun stamps => ⟨w.config, stamps⟩

/-- Looks at the files again, and tells which have changed since the last look. -/
def poll (w : Watch) (t : Tree) : Except Fault (List Path × Watch) :=
  (snapshot t w.config).map fun stamps => (changes w.stamps stamps, ⟨w.config, stamps⟩)

section Loop

variable {m : Type → Type} [Monad m] [MonadLiftT (Except Fault) m] (onChange : List Path → m Unit)

def round (w : Watch) (t : Tree) : m Watch := do
  let (changed, w) ← liftM (w.poll t)
  unless changed.isEmpty do onChange changed
  return w

def rounds (w : Watch) : List Tree → m Watch
  | [] => return w
  | t :: ts => do rounds (← w.round onChange t) ts

def run (w : Watch) (t : Tree) (ts : List Tree) : m Watch := do
  rounds onChange (← liftM (w.start t)) ts

end Loop

end Watch

end UtilityCss
