import UtilityCss.Proofs.Expansion.Step
import UtilityCss.Proofs.Refusal.Family
import UtilityCss.Proofs.Utility.Registry

/-!
The tokens that a resolver refuses. A token is refused when its own family refuses the rest of its name,
or when a class of the preset that it stands for is refused; a stylesheet is refused with any of its
classes.
-/

namespace UtilityCss

open Outcome

namespace Resolver

attribute [local irreducible] Token.parse

variable (r : Resolver)

structure Sound : Prop where
  declarations : ∀ name d, r.utilities.get? name = some (.declaration d) → ¬ Fails d.pairs
  families : ∀ name family, r.registry.get? name = some family → family.Sound

structure RefusesName (base : String) : Prop where
  undeclared : ∀ d, r.utilities.get? base ≠ some (.declaration d)
  key : ∃ name key family, r.registry.split? base = some (name, key) ∧
    r.registry.get? name = some family ∧ family.Refuses r.surroundings key

inductive Refuses : List String → String → Prop
  | own {seen : List String} {token : String} (hn : r.baseOf token ≠ "")
      (hp : ∀ classes, ¬ r.Expands seen token classes) (h : r.RefusesName (r.baseOf token)) :
      Refuses seen token
  | inside {seen classes : List String} {token c : String} (he : r.Expands seen token classes)
      (hc : c ∈ classes) (h : Refuses (r.baseOf token :: seen) c) : Refuses seen token

variable {r}

theorem fails_familyRules_iff (hs : r.Sound) (t : Token) : Fails (r.familyRules t) ↔
    ∃ name key family, r.registry.split? t.base = some (name, key) ∧
      r.registry.get? name = some family ∧ family.Refuses r.surroundings key := by
  rw [familyRules]
  cases hsplit : r.registry.split? t.base with
  | none => exact iff_of_false (not_fails_ok _) nofun
  | some p =>
    obtain ⟨name, key⟩ := p
    dsimp only
    cases hg : r.registry.get? name with
    | none =>
      refine iff_of_false (not_fails_ok _) ?_
      rintro ⟨name', key', family, hs', hg', _⟩
      cases hs'
      rw [hg] at hg'
      cases hg'
    | some family =>
      dsimp only
      rw [fails_map, Family.fails_resolve_iff _ _ (hs.families name family hg)]
      constructor
      · intro h
        exact ⟨name, key, family, rfl, hg, h⟩
      · rintro ⟨name', key', family', hs', hg', h⟩
        cases hs'
        rw [hg] at hg'
        cases hg'
        exact h

theorem fails_ownRules_iff (hs : r.Sound) (t : Token) :
    Fails (r.ownRules t) ↔ r.RefusesName t.base := by
  rw [ownRules]
  split
  · rename_i d hd
    refine iff_of_false ?_ fun h => h.undeclared d hd
    rw [fixedRules, fails_map]
    exact hs.declarations _ d hd
  · rename_i hd
    rw [fails_familyRules_iff hs]
    exact ⟨fun h => ⟨hd, h⟩, RefusesName.key⟩

theorem fails_resolve_iff (hs : r.Sound) (seen : List String) (token : String) :
    Fails (r.resolve seen token) ↔ r.Refuses seen token := by
  induction seen, token using r.resolve_induction with
  | plain seen token h =>
    rw [r.resolve_of_plain h, plainRules]
    split
    · rename_i hn
      refine iff_of_false (not_fails_ok _) ?_
      rintro (⟨hn', _, _⟩ | ⟨he, _, _⟩)
      · exact hn' hn
      · exact h _ he
    · rename_i hn
      rw [fails_ownRules_iff hs]
      constructor
      · exact .own hn h
      · rintro (⟨_, _, hr⟩ | ⟨he, _, _⟩)
        · exact hr
        · exact absurd he (h _)
  | preset seen token classes h ih =>
    rw [r.resolve_of_expands h, fails_map, fails_mapM]
    constructor
    · rintro ⟨c, hc, hf⟩
      exact .inside h hc ((ih c hc).1 hf)
    · rintro (⟨_, hp, _⟩ | ⟨he, hc, hr⟩)
      · exact absurd h (hp _)
      · have heq := Option.some.inj (he.preset.symm.trans h.preset)
        subst heq
        exact ⟨_, hc, (ih _ hc).2 hr⟩

def paired : Entry → Bool
  | .declaration d => d.pairs.isOk
  | _ => true

theorem sound_standard (theme : Theme) (presets breakpoints : Table String String) :
    Sound ⟨.ofTheme theme, presets, Entry.standard, Registry.standard, breakpoints⟩ := by
  have hentries : ∀ e ∈ Entry.standard.entries, paired e.2 = true := Table.forall_ofList (by decide +kernel)
  have hfamilies : ∀ e ∈ Registry.standard.entries, e.2.Sound = true := by
    rw [Registry.standard_eq_listed]
    decide +kernel
  constructor
  · rintro name d hd ⟨e, he⟩
    have hp : d.pairs.isOk = true := hentries _ ((Table.get?_eq_some_iff _ _ _).1 hd)
    rw [he] at hp
    cases hp
  · intro name family hf
    exact hfamilies _ ((Table.get?_eq_some_iff _ _ _).1 hf)

theorem mem_sorted (x : String) (xs : List String) : x ∈ sorted xs ↔ x ∈ xs := by
  rw [sorted, List.mem_mergeSort, List.mem_eraseDups]

variable (r) in
theorem fails_resolveAll_iff (tokens : List String) :
    Fails (r.resolveAll tokens) ↔ ∃ token ∈ tokens, Fails (r.resolve [] token) := by
  rw [resolveAll, fails_foldlM (g := r.resolve []) fun t token => fails_map _ _]
  simp only [mem_sorted]

end Resolver

theorem Config.fails_generate_iff (c : Config) (classes : List String) (banner : Bool) :
    Fails (c.generate classes banner) ↔ ∃ token ∈ classes, c.resolver.Refuses [] token := by
  have hs : c.resolver.Sound := Resolver.sound_standard _ _ _
  have htotal : Fails (c.generate classes banner) ↔
      Fails (c.resolver.resolveAll (Resolver.sorted classes)) := by
    rw [generate]
    exact fails_bind_total fun _ => not_fails_ok _
  rw [htotal, Resolver.fails_resolveAll_iff]
  simp only [Resolver.mem_sorted, Resolver.fails_resolve_iff hs]

/-- Over the built-in tables there is a resolver for every theme, preset table and breakpoint table. It
gives a list of rules for a token exactly if it does not refuse the token, and every configuration has a
stylesheet exactly for the classes of which none is refused. -/
theorem resolves_iff_not_refused (theme : Theme) (presets breakpoints : Table String String)
    (seen : List String) (token : String) (c : Config) (classes : List String) (banner : Bool) :
    (∃ r, Resolver.build theme presets Entry.standard breakpoints = .ok r ∧
      ((∃ rules, r.resolve seen token = .ok rules) ↔ ¬ r.Refuses seen token)) ∧
    ((∃ g, c.generate classes banner = .ok g) ↔ ∀ token ∈ classes, ¬ c.resolver.Refuses [] token) := by
  constructor
  · refine ⟨_, Resolver.build_standard theme presets breakpoints, ?_⟩
    rw [← not_fails_iff, Resolver.fails_resolve_iff (Resolver.sound_standard _ _ _)]
  · rw [← not_fails_iff, Config.fails_generate_iff]
    simp only [not_exists, not_and]

theorem refused_standard :
    (Resolver.standard .standard .empty).resolve [] "grid-cols-²" = .error (.notAnInteger 10 "²") ∧
      (Resolver.standard .standard .empty).resolve [] "from-[#abc\n]" = .error (.notAnInteger 16 "") := by
  rw [Resolver.standard_eq_listed]
  let r := Resolver.listed .standard .empty
  have hplain : r.presetClasses? (r.baseOf "grid-cols-²") = none ∧
      r.presetClasses? (r.baseOf "from-[#abc\n]") = none := by decide +kernel
  have hrules : r.plainRules "grid-cols-²" = .error (.notAnInteger 10 "²") ∧
      r.plainRules "from-[#abc\n]" = .error (.notAnInteger 16 "") := by decide +kernel
  constructor
  · rw [Resolver.resolve_of_not_preset _ hplain.1, hrules.1]
  · rw [Resolver.resolve_of_not_preset _ hplain.2, hrules.2]

end UtilityCss
