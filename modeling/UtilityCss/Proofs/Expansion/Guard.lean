import UtilityCss.Proofs.Expansion.Recursion
import UtilityCss.Proofs.Table
import UtilityCss.Theme.Defaults

/-!
The meaning of the guard against cycles. Names under way are names that are no presets: resolving among
them is resolving with tables from which they are taken. Where no cycle can be reached the guard changes
nothing.
-/

namespace UtilityCss.Resolver

attribute [local irreducible] Token.parse

variable (r : Resolver)

/-- The resolver whose tables have no presets of the given names. -/
def without (names : List String) : Resolver :=
  { r with
    presets := r.presets.filter fun name _ => !names.contains name
    utilities := r.utilities.filter fun name e => !(names.contains name && e.presetClasses?.isSome) }

theorem presetClasses?_without_of_mem {names : List String} {name : String} (h : name ∈ names) :
    (r.without names).presetClasses? name = none := by
  have hp : (r.without names).presets.get? name = none := by
    simp [without, Table.get?_filter, h]
  have hu : (r.without names).utilities.get? name =
      (r.utilities.get? name).filter fun e => !e.presetClasses?.isSome := by
    simp [without, Table.get?_filter, h]
  rw [presetClasses?, hp]
  dsimp only
  rw [hu]
  cases hg : r.utilities.get? name with
  | none => rfl
  | some e => cases he : e.presetClasses? <;> simp [Option.filter, he]

theorem presetClasses?_without_of_not_mem {names : List String} {name : String} (h : name ∉ names) :
    (r.without names).presetClasses? name = r.presetClasses? name := by
  have hp : (r.without names).presets.get? name = r.presets.get? name :=
    Table.get?_filter_of_forall (by simp [h]) _
  have hu : (r.without names).utilities.get? name = r.utilities.get? name :=
    Table.get?_filter_of_forall (by simp [h]) _
  rw [presetClasses?, presetClasses?, hp, hu]

theorem ownRules_without (names : List String) (t : Token) :
    (r.without names).ownRules t = r.ownRules t := by
  have hu : (r.without names).utilities.get? t.base = (r.utilities.get? t.base).filter fun e =>
      !(names.contains t.base && e.presetClasses?.isSome) := Table.get?_filter _ _ _
  have hf : (r.without names).familyRules t = r.familyRules t := rfl
  rw [ownRules, ownRules, hu, hf]
  cases r.utilities.get? t.base with
  | none => rfl
  | some e =>
    cases e with
    | declaration d => simp [Option.filter, Entry.presetClasses?]
    | group g => simp [Option.filter, Entry.presetClasses?]
    | preset classes => by_cases hn : t.base ∈ names <;> simp [Option.filter, Entry.presetClasses?, hn]

theorem plainRules_without (names : List String) (token : String) :
    (r.without names).plainRules token = r.plainRules token := by
  rw [plainRules, plainRules, ownRules_without]
  rfl

theorem expands_without_iff {names others seen classes : List String} {token : String}
    (h : ∀ n, n ∈ seen ↔ n ∈ names ∨ n ∈ others) :
    (r.without names).Expands others token classes ↔ r.Expands seen token classes := by
  have hb : (r.without names).baseOf token = r.baseOf token := rfl
  by_cases hm : r.baseOf token ∈ names
  · constructor
    · intro he
      have hp := he.preset
      rw [hb, r.presetClasses?_without_of_mem hm] at hp
      cases hp
    · intro he
      exact absurd ((h _).2 (.inl hm)) he.fresh
  · have hp := r.presetClasses?_without_of_not_mem hm
    have hs : r.baseOf token ∈ seen ↔ r.baseOf token ∈ others := by
      rw [h]
      exact or_iff_right hm
    constructor
    · intro he
      exact ⟨he.named, fun hc => he.fresh (hs.1 hc), hp ▸ he.preset⟩
    · intro he
      exact ⟨he.named, fun hc => he.fresh (hs.2 hc), hp.trans he.preset⟩

theorem resolve_without (names seen : List String) (token : String) :
    ∀ others : List String, (∀ n, n ∈ seen ↔ n ∈ names ∨ n ∈ others) →
      (r.without names).resolve others token = r.resolve seen token := by
  induction seen, token using r.resolve_induction with
  | plain seen token h =>
    intro others hs
    rw [r.resolve_of_plain h, ← r.plainRules_without names]
    apply resolve_of_plain
    intro classes he
    exact h classes ((r.expands_without_iff hs).1 he)
  | preset seen token classes h ih =>
    intro others hs
    have he := (r.expands_without_iff hs).2 h
    rw [resolve_of_expands _ he, r.resolve_of_expands h]
    change Except.map (r.gathered token) _ = _
    congr 1
    apply Outcome.mapM_congr
    intro c hc
    apply ih c hc
    -- The preset itself is under way on both sides now.
    intro n
    have hb : (r.without names).baseOf token = r.baseOf token := rfl
    rw [hb, List.mem_cons, List.mem_cons, hs n]
    exact or_left_comm

/-- A name whose classes lead back to it. -/
def Cyclic (name : String) : Prop :=
  name ≠ "" ∧ ∃ classes, r.presetClasses? name = some classes ∧ ∃ c ∈ classes, r.Reaches c name

theorem not_cyclic {rank : String → Nat} {tokens : List String} (hr : r.Ranked rank tokens)
    {token name : String} (h : r.Reaches token name) (hm : token ∈ tokens) : ¬ r.Cyclic name := by
  induction h with
  | base token =>
    rintro ⟨_, classes, hp, c, hc, hback⟩
    have hclass : c ∈ (r.presetClasses? (r.baseOf token)).getD [] := by
      rw [hp]
      exact hc
    obtain ⟨hmem, hlt⟩ := hr token hm c hclass
    have hle := hback.rank_le r hr hmem
    omega
  | @inside token c name classes hn hp hc h ih =>
    have hclass : c ∈ (r.presetClasses? (r.baseOf token)).getD [] := by
      rw [hp]
      exact hc
    exact ih (hr token hm c hclass).1

theorem yields_unguarded {token : String} (h : ∀ name, r.Reaches token name → ¬ r.Cyclic name) :
    ∀ out, r.Yields unguarded [] token out ↔ out = r.resolve [] token := by
  -- No name that lies ahead is under way: it would lead back to itself.
  let ahead (seen : List String) (token : String) : Prop :=
    ∀ name, r.Reaches token name → name ∉ seen ∧ ¬ r.Cyclic name
  apply yields_iff_resolve ahead
  · intro seen token ha
    have hb : r.baseOf token ∉ seen := (ha _ (.base token)).1
    exact (guarded_eq_false_iff.2 hb).symm
  · intro seen token classes ha he c hc name hr
    obtain ⟨hs, hn⟩ := ha name (.inside he.named he.preset hc hr)
    refine ⟨fun hm => ?_, hn⟩
    rcases List.mem_cons.1 hm with rfl | hm
    · exact hn ⟨he.named, classes, he.preset, c, hc, hr⟩
    · exact hs hm
  · intro name hr
    exact ⟨List.not_mem_nil, h name hr⟩

/-- To resolve among presets under way is to resolve without them; and where no cycle can be reached,
the recursion that knows no guard yields the same rules. -/
theorem guard_is_deletion (r : Resolver) (seen : List String) (token : String) :
    r.resolve seen token = (r.without seen).resolve [] token ∧
      ((∀ name, r.Reaches token name → ¬ r.Cyclic name) →
        ∀ out, r.Yields unguarded [] token out ↔ out = r.resolve [] token) := by
  refine ⟨?_, r.yields_unguarded⟩
  symm
  apply r.resolve_without seen seen token []
  simp

def layout : Resolver :=
  .standard .standard (.ofList [
    ("page", "row md:row hover:cell"), ("row", "flex cell -mt-2 dark:cell"), ("cell", "block p-4")])

theorem layout_ranked : layout.Ranked (fun name => (["cell", "row", "page"].idxOf name + 1) % 4)
    ["sm:page", "row", "md:row", "hover:cell", "flex", "cell", "-mt-2", "dark:cell", "block", "p-4"] := by
  decide +kernel

theorem guard_is_deletion_layout :
    (∀ name, layout.Reaches "sm:page" name → ¬ layout.Cyclic name) ∧
      layout.Yields unguarded [] "sm:page" (layout.resolve [] "sm:page") := by
  have hacyclic : ∀ name, layout.Reaches "sm:page" name → ¬ layout.Cyclic name := by
    intro name h
    exact not_cyclic layout layout_ranked h (by decide)
  exact ⟨hacyclic, ((guard_is_deletion layout [] "sm:page").2 hacyclic _).2 rfl⟩

end UtilityCss.Resolver
