import Mathlib.Data.List.Lex
import Mathlib.Data.String.Basic
import UtilityCss.Proofs.Files.Locality

namespace UtilityCss

namespace Path

theorem namesLe_iff {a b : List String} : namesLe a b = true ↔ a ≤ b := by
  rw [← not_lt]
  induction a generalizing b with
  | nil => simp [namesLe]
  | cons x a ih =>
    cases b with
    | nil => simp [namesLe]
    | cons y b =>
      rw [namesLe, List.cons_lt_cons_iff]
      by_cases hxy : x = y
      · simp [hxy, ih]
      · simp [hxy, Ne.symm hxy, lt_iff_le_and_ne]

theorem perm_sorted (ps : List Path) : (sorted ps).Perm ps :=
  List.mergeSort_perm ps le

theorem mem_sorted {p : Path} {ps : List Path} : p ∈ sorted ps ↔ p ∈ ps :=
  (perm_sorted ps).mem_iff

theorem pairwise_sorted (ps : List Path) : (sorted ps).Pairwise fun p q => p.steps ≤ q.steps := by
  have hsorted : (sorted ps).Pairwise fun p q => le p q = true := by
    apply List.pairwise_mergeSort
    · intro p q r hpq hqr
      exact namesLe_iff.2 ((namesLe_iff.1 hpq).trans (namesLe_iff.1 hqr))
    · intro p q
      rw [Bool.or_eq_true, le, le, namesLe_iff, namesLe_iff]
      exact le_total p.steps q.steps
  exact hsorted.imp namesLe_iff.1

theorem sorted_of_pairwise {ps : List Path} (h : ps.Pairwise fun p q => le p q = true) : sorted ps = ps :=
  List.mergeSort_of_pairwise h

theorem steps_injective {p q : Path} (hp : p.absolute = true ∨ "/" ∉ p.parts)
    (hq : q.absolute = true ∨ "/" ∉ q.parts) (h : p.steps = q.steps) : p = q := by
  obtain ⟨pa, p⟩ := p
  obtain ⟨qa, q⟩ := q
  have hroot {a b : List String} (hb : "/" ∉ b) : "/" :: a ≠ b := fun h => hb (h ▸ List.mem_cons_self ..)
  cases pa <;> cases qa
  · exact congrArg (Path.mk false) h
  · exact absurd h.symm (hroot (hp.resolve_left Bool.false_ne_true))
  · exact absurd h (hroot (hq.resolve_left Bool.false_ne_true))
  · exact congrArg (Path.mk true) (List.cons.inj h).2

theorem ascending_steps {ps : List Path} (hnames : ∀ p ∈ ps, p.absolute = true ∨ "/" ∉ p.parts) (hnodup : ps.Nodup) :
    (sorted ps).Pairwise fun p q => p.steps < q.steps := by
  have hdistinct : (sorted ps).Pairwise (· ≠ ·) := (perm_sorted ps).nodup_iff.2 hnodup
  apply ((pairwise_sorted ps).and hdistinct).imp_of_mem
  rintro p q hp hq ⟨hle, hne⟩
  exact lt_of_le_of_ne hle fun heq =>
    hne (steps_injective (hnames p (mem_sorted.1 hp)) (hnames q (mem_sorted.1 hq)) heq)

theorem ascending_sorted {ps : List Path} (habsolute : ∀ p ∈ ps, p.absolute = true) (hnodup : ps.Nodup) :
    (sorted ps).Pairwise fun p q => p.parts < q.parts := by
  apply (ascending_steps (fun p hp => .inl (habsolute p hp)) hnodup).imp_of_mem
  intro p q hp hq hlt
  have hp := habsolute p (mem_sorted.1 hp)
  have hq := habsolute q (mem_sorted.1 hq)
  rw [steps, steps, if_pos hp, if_pos hq] at hlt
  simpa using hlt

end Path

namespace Tree

variable {t : Tree} {p dir : Path}

theorem absolute_of_mem_glob {pattern : String} (hdir : dir.absolute = true) (h : p ∈ t.glob dir pattern) :
    p.absolute = true := by
  rw [glob] at h
  split at h
  · obtain ⟨_, rfl⟩ := exists_eq_of_mem_globFrom h
    rfl
  · obtain ⟨_, rfl⟩ := exists_eq_of_mem_globFrom h
    exact hdir

end Tree

end UtilityCss
