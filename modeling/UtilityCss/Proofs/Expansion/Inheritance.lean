import UtilityCss.Proofs.Expansion.Step

namespace UtilityCss

namespace Rule

theorem orElse_none (a : Option String) : orElse none a = a := rfl

theorem orElse_some {s : String} (h : s ≠ "") (b : Option String) : orElse (some s) b = some s := by
  have hs : ¬ s.isEmpty = true := fun he => h (String.isEmpty_iff.1 he)
  rw [orElse, if_neg hs]

theorem orElse_eq_or {a : Option String} (h : a ≠ some "") (b : Option String) : orElse a b = a.or b := by
  cases a with
  | none => rfl
  | some s => exact orElse_some (fun he => h (congrArg some he)) b

theorem orElse_assoc (a b c : Option String) : orElse (orElse a b) c = orElse a (orElse b c) := by
  cases a with
  | none => rfl
  | some s => by_cases hs : s.isEmpty <;> simp [orElse, hs]

end Rule

/-- A token with the name and sign of `inner`, its words, and those of `outer` where it has none. -/
structure Token.Nests (outer inner both : Token) : Prop where
  base : both.base = inner.base
  negated : both.negated = inner.negated
  breakpoint : both.breakpoint = Rule.orElse inner.breakpoint outer.breakpoint
  mode : both.mode = Rule.orElse inner.mode outer.mode
  variant : both.variant = Rule.orElse inner.variant outer.variant

open Token

variable {outer inner both : Token}

theorem Rule.inherit_inherit (h : Nests outer inner both) (rule : Rule) :
    Rule.inherit outer (Rule.inherit inner rule) = Rule.inherit both rule := by
  simp only [Rule.inherit, h.breakpoint, h.mode, h.variant, Rule.orElse_assoc]

namespace Resolver

variable (r : Resolver)

theorem familyRule_nests (h : Nests outer inner both) (s : Resolution) :
    familyRule both s = Rule.inherit outer (familyRule inner s) := by
  simp only [familyRule, Rule.inherit, h.breakpoint, h.mode, h.variant, h.negated]

theorem familyRules_nests (h : Nests outer inner both) :
    r.familyRules both = (r.familyRules inner).map (List.map (Rule.inherit outer)) := by
  rw [familyRules, familyRules, h.base, h.negated]
  cases r.registry.split? inner.base with
  | none => rfl
  | some p =>
    obtain ⟨name, key⟩ := p
    dsimp only
    cases r.registry.get? name with
    | none => rfl
    | some family =>
      dsimp only
      cases family.resolve r.surroundings key inner.negated with
      | error e => rfl
      | ok s =>
        cases s with
        | none => rfl
        | some s =>
          have hs := familyRule_nests h s
          simp [Except.map, hs]

theorem variants_nests (h : Nests outer inner both) (fixed : List String) (hi : inner.variant ≠ some "")
    (hv : "" ∉ fixed) (hf : inner.variant = none → fixed ≠ [] → outer.variant = none) :
    (if both.variant.isNone && !fixed.isEmpty then fixed.map some else [both.variant]) =
      (if inner.variant.isNone && !fixed.isEmpty then fixed.map some else [inner.variant]).map
        fun v => Rule.orElse v outer.variant := by
  rw [h.variant]
  cases hn : inner.variant with
  | some v =>
    have hkeep : Rule.orElse (some v) outer.variant = some v :=
      Rule.orElse_some (fun he => hi (hn.trans (congrArg some he))) _
    rw [hkeep]
    simp [hkeep]
  | none =>
    rw [Rule.orElse_none]
    by_cases hl : fixed = []
    · simp [hl, Rule.orElse_none]
    · have hkeep : ∀ v ∈ fixed, Rule.orElse (some v) none = some v := by
        intro v hm
        have hne : (some v : Option String) ≠ some "" := fun he => hv (Option.some.inj he ▸ hm)
        rw [Rule.orElse_eq_or hne]
        rfl
      rw [hf hn hl]
      simpa [hl] using fun v hm => (hkeep v hm).symm

theorem fixedRules_nests (h : Nests outer inner both) (d : Declaration) (hi : inner.variant ≠ some "")
    (hv : "" ∉ d.variants) (hf : inner.variant = none → d.variants ≠ [] → outer.variant = none) :
    fixedRules both d = (fixedRules inner d).map (List.map (Rule.inherit outer)) := by
  rw [fixedRules, fixedRules, h.negated]
  cases d.pairs with
  | error e => rfl
  | ok pairs =>
    have hvs := variants_nests h d.variants hi hv hf
    simp only [Except.map, hvs, List.map_map]
    congr 1
    apply List.map_congr_left
    intro v _
    simp only [Function.comp, Rule.inherit, h.breakpoint, h.mode]

end Resolver

end UtilityCss
