import Mathlib.Data.Finset.Card
import UtilityCss.Proofs.Expansion.Recursion
import UtilityCss.Theme.Defaults

/-!
Chains of expansions, each of a preset of which the next token is a class. A chain expands no name twice,
so the presets not under way bound its length, and the expansion ends for all tables.
-/

namespace UtilityCss.Resolver

variable (r : Resolver)

def presetNames : Finset String :=
  (r.names.filter fun n => (r.presetClasses? n).isSome).toFinset

theorem mem_presetNames {name : String} {classes : List String}
    (h : r.presetClasses? name = some classes) : name ∈ r.presetNames := by
  rw [presetNames, List.mem_toFinset, List.mem_filter]
  exact ⟨r.mem_names_of_presetClasses? h, by rw [h]; rfl⟩

/-- The names that are expanded one inside the other, starting with a token. -/
inductive Chain : List String → String → List String → Prop
  | stop (seen : List String) (token : String) : Chain seen token []
  | last {seen classes : List String} {token : String} (h : r.Expands seen token classes) :
      Chain seen token [r.baseOf token]
  | inside {seen classes names : List String} {token c : String} (h : r.Expands seen token classes)
      (hc : c ∈ classes) (ht : Chain (r.baseOf token :: seen) c names) :
      Chain seen token (r.baseOf token :: names)

variable {seen names : List String} {token : String}

theorem Chain.mem (h : r.Chain seen token names) : ∀ n ∈ names, n ∈ r.presetNames ∧ n ∉ seen := by
  induction h with
  | stop => simp
  | last h =>
    intro n hn
    rw [List.mem_singleton.1 hn]
    exact ⟨r.mem_presetNames h.preset, h.fresh⟩
  | inside h hc ht ih =>
    intro n hn
    rcases List.mem_cons.1 hn with rfl | hn
    · exact ⟨r.mem_presetNames h.preset, h.fresh⟩
    · obtain ⟨hp, hs⟩ := ih n hn
      exact ⟨hp, fun hm => hs (List.mem_cons_of_mem _ hm)⟩

theorem Chain.nodup (h : r.Chain seen token names) : names.Nodup := by
  induction h with
  | stop => exact List.nodup_nil
  | last h => exact List.nodup_singleton _
  | inside h hc ht ih =>
    apply List.nodup_cons.2
    -- The rest of the chain runs while the first name is under way.
    refine ⟨fun hm => ?_, ih⟩
    exact (ht.mem r _ hm).2 (List.mem_cons_self ..)

theorem Chain.length_le (h : r.Chain seen token names) :
    names.length ≤ (r.presetNames \ seen.toFinset).card := by
  have hsub : names.toFinset ⊆ r.presetNames \ seen.toFinset := by
    intro n hn
    obtain ⟨hp, hs⟩ := h.mem r n (List.mem_toFinset.1 hn)
    exact Finset.mem_sdiff.2 ⟨hp, fun hm => hs (List.mem_toFinset.1 hm)⟩
  have hcard := Finset.card_le_card hsub
  rwa [List.toFinset_card_of_nodup (h.nodup r)] at hcard

/-- Whatever the tables say of each other's names, the recursion with the guard ends and yields the rules
of the token, and no chain of expansions in it has a name twice or is longer than there are presets not
under way at its start. -/
theorem expansion_ends (r : Resolver) (seen : List String) (token : String) :
    (∀ out, r.Yields guarded seen token out ↔ out = r.resolve seen token) ∧
      ∀ names, r.Chain seen token names →
        names.Nodup ∧ (∀ n ∈ names, n ∉ seen) ∧
          names.length ≤ (r.presetNames \ seen.toFinset).card := by
  refine ⟨yields_guarded seen token, fun names h => ⟨h.nodup r, fun n hn => ?_, h.length_le r⟩⟩
  exact (h.mem r n hn).2

def looped : Resolver :=
  .standard .standard (.ofList [("left", "flex sm:-right left"), ("right", "dark:left block")])

theorem expansion_ends_looped :
    looped.Chain [] "hover:left" ["left", "right"] ∧ ["left", "right"].Nodup ∧
      (∀ n ∈ ["left", "right"], n ∉ ([] : List String)) ∧
        ["left", "right"].length ≤ (looped.presetNames \ ([] : List String).toFinset).card := by
  have hleft : looped.baseOf "hover:left" = "left" := by decide +kernel
  have hright : looped.baseOf "sm:-right" = "right" := by decide +kernel
  have houter : looped.Expands [] "hover:left" ["flex", "sm:-right", "left"] := by
    constructor
    · rw [hleft]
      decide
    · exact List.not_mem_nil
    · rw [hleft]
      decide +kernel
  have hinner : looped.Expands ["left"] "sm:-right" ["dark:left", "block"] := by
    constructor
    · rw [hright]
      decide
    · rw [hright]
      decide
    · rw [hright]
      decide +kernel
  have hlast : looped.Chain [looped.baseOf "hover:left"] "sm:-right" [looped.baseOf "sm:-right"] := by
    rw [hleft]
    exact .last hinner
  have hchain : looped.Chain [] "hover:left" ["left", "right"] := by
    have h := Chain.inside houter (by simp) hlast
    rwa [hleft, hright] at h
  exact ⟨hchain, (expansion_ends looped [] "hover:left").2 _ hchain⟩

end UtilityCss.Resolver
