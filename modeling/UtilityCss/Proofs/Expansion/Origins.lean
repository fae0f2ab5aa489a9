import UtilityCss.Proofs.Expansion.Step
import UtilityCss.Proofs.Token.Prefixes
import UtilityCss.Proofs.Utility.Declarations

namespace UtilityCss

open Outcome Stylesheet

structure Context.Known (w : Words) (c : Context) : Prop where
  breakpoint : ∀ b, c.breakpoint = some b → b ∈ w.breakpoints
  mode : ∀ m, c.mode = some m → m ∈ w.modes
  variant : ∀ v, c.variant = some v → v ∈ w.variants
  selector : c.selector = none ∨ c.selector = some Family.laterChildren

def Token.Known (w : Words) (t : Token) : Prop :=
  Setting.Sound w ⟨t.breakpoint, t.variant, t.mode⟩

variable {P : String → Prop} {w : Words}

namespace Rule

def Line (P : String → Prop) (line : String) : Prop :=
  ∃ property value, P property ∧ P value ∧ line = property ++ ": " ++ value ++ ";"

structure Sound (w : Words) (P : String → Prop) (rule : Rule) : Prop where
  context : rule.context.Known w
  lines : ∀ line ∈ rule.lines, Line P line

theorem line_of_mem_linesOf {ds : List (String × String)} (h : ∀ d ∈ ds, P d.1 ∧ P d.2) :
    ∀ line ∈ linesOf ds, Line P line := by
  intro line hl
  obtain ⟨d, hd, rfl⟩ := List.mem_map.1 hl
  exact ⟨d.1, d.2, (h d hd).1, (h d hd).2, rfl⟩

theorem orElse_eq_some {a b : Option String} {s : String} (h : orElse a b = some s) :
    a = some s ∨ b = some s := by
  cases a with
  | none => exact .inr h
  | some t =>
    rw [orElse] at h
    split at h
    · exact .inr h
    · exact .inl h

theorem Sound.inherit {outer : Token} {rule : Rule} (ho : outer.Known w) (h : rule.Sound w P) :
    (Rule.inherit outer rule).Sound w P where
  context :=
    { breakpoint := fun b hb => (orElse_eq_some hb).elim (h.context.breakpoint b) (ho.breakpoint b)
      mode := fun m hm => (orElse_eq_some hm).elim (h.context.mode m) (ho.mode m)
      variant := fun v hv => (orElse_eq_some hv).elim (h.context.variant v) (ho.variant v)
      selector := h.context.selector }
  lines := h.lines

end Rule

namespace Resolver

attribute [local irreducible] Token.parse

variable (r : Resolver)

/-- The keys that families are asked for when a token is resolved, while the presets in `seen` are under
way. -/
inductive Reads : List String → String → Family → String → Prop
  | own {seen : List String} {token name key : String} {family : Family} (hn : r.baseOf token ≠ "")
      (hp : ∀ classes, ¬ r.Expands seen token classes)
      (hd : ∀ d, r.utilities.get? (r.baseOf token) ≠ some (.declaration d))
      (hs : r.registry.split? (r.baseOf token) = some (name, key))
      (hf : r.registry.get? name = some family) : Reads seen token family key
  | inside {seen classes : List String} {token c key : String} {family : Family}
      (he : r.Expands seen token classes) (hc : c ∈ classes)
      (h : Reads (r.baseOf token :: seen) c family key) : Reads seen token family key

structure Closed (P : String → Prop) : Prop where
  append : ∀ s t, P s → P t → P (s ++ t)
  plain : ∀ s : String, Plain s.toList → P s
  variants : ∀ name d, r.utilities.get? name = some (.declaration d) → ∀ v ∈ d.variants, v ∈ r.words.variants
  declarations : ∀ name d, r.utilities.get? name = some (.declaration d) →
    Ensures (fun pairs => ∀ p ∈ pairs, P p.1 ∧ P p.2) d.pairs
  families : ∀ name family, r.registry.get? name = some family → ∀ t ∈ family.texts r.surroundings, P t

structure KeyClosed (P : String → Prop) (family : Family) (key : String) : Prop where
  length : Inert key.toList → P key
  literal : ∀ v ∈ family.literals key, P v

def ownLiterals (token : String) : List String :=
  match r.registry.split? (r.baseOf token) with
  | some (name, key) => ((r.registry.get? name).map fun family => family.literals key).getD []
  | none => []

variable {r}

theorem known_parse (token : String) : (r.parse token).Known r.words :=
  Token.sound_parse token

theorem Closed.negate (h : r.Closed P) {v : String} (hv : P v) : P (Value.negate v) := by
  rw [Value.negate]
  split
  · split
    · exact h.append _ _ (h.plain _ (by decide)) hv
    · exact hv
  · exact hv

theorem Closed.negated (h : r.Closed P) (sign : Bool) {ds : List (String × String)}
    (hd : ∀ d ∈ ds, P d.1 ∧ P d.2) :
    ∀ d ∈ (if sign then ds.map fun d => (d.1, Value.negate d.2) else ds), P d.1 ∧ P d.2 := by
  split
  · intro d hm
    obtain ⟨e, he, rfl⟩ := List.mem_map.1 hm
    exact ⟨(hd e he).1, h.negate (hd e he).2⟩
  · exact hd

def AllSound (r : Resolver) (P : String → Prop) (rules : List Rule) : Prop :=
  ∀ rule ∈ rules, rule.Sound r.words P

theorem sound_fixedRules (h : r.Closed P) {t : Token} (ht : t.Known r.words) {name : String} {d : Declaration}
    (hd : r.utilities.get? name = some (.declaration d)) : Ensures (r.AllSound P) (fixedRules t d) := by
  rw [fixedRules, ensures_map]
  intro pairs hpairs rule hr
  have hlines := Rule.line_of_mem_linesOf (h.negated t.negated (h.declarations name d hd pairs hpairs))
  obtain ⟨v, hv, rfl⟩ := List.mem_map.1 hr
  refine ⟨⟨ht.breakpoint, ht.mode, fun u hu => ?_, .inl rfl⟩, hlines⟩
  split at hv
  · obtain ⟨u', hu', rfl⟩ := List.mem_map.1 hv
    exact Option.some.inj hu ▸ h.variants name d hd u' hu'
  · rw [List.mem_singleton.1 hv] at hu
    exact ht.variant u hu

theorem sound_familyRules (h : r.Closed P) {t : Token} (ht : t.Known r.words)
    (hk : ∀ name family key, r.registry.split? t.base = some (name, key) →
      r.registry.get? name = some family → KeyClosed P family key) :
    Ensures (r.AllSound P) (r.familyRules t) := by
  have hnone : Ensures (r.AllSound P) (.ok [] : Except Fault (List Rule)) := (ensures_ok _).2 nofun
  rw [familyRules]
  split
  · exact hnone
  · rename_i name key hs
    split
    · exact hnone
    · rename_i family hf
      have hkey := hk name family key hs hf
      have hclosed : family.Closed P r.surroundings key :=
        ⟨h.append, h.plain, hkey.length, hkey.literal, h.families name family hf⟩
      rw [ensures_map]
      intro o ho rule hr
      obtain ⟨s, hs, rfl⟩ : ∃ s, o = some s ∧ familyRule t s = rule := by simpa using hr
      have hmade := Family.made_resolve hclosed _ o ho s hs
      exact ⟨⟨ht.breakpoint, ht.mode, ht.variant, hmade.selector⟩,
        Rule.line_of_mem_linesOf (h.negated _ hmade.declarations)⟩

theorem sound_plainRules (h : r.Closed P) {seen : List String} {token : String}
    (hp : ∀ classes, ¬ r.Expands seen token classes)
    (hk : ∀ family key, r.Reads seen token family key → KeyClosed P family key) :
    Ensures (r.AllSound P) (r.plainRules token) := by
  rw [plainRules]
  split
  · exact (ensures_ok _).2 (List.forall_mem_nil _)
  · rename_i hn
    rw [ownRules]
    split
    · rename_i d hd
      exact sound_fixedRules h (known_parse token) hd
    · rename_i hd
      exact sound_familyRules h (known_parse token) fun name family key hs hf =>
        hk family key (.own hn hp hd hs hf)

theorem sound_resolve (h : r.Closed P) (seen : List String) (token : String) :
    (∀ family key, r.Reads seen token family key → KeyClosed P family key) →
      Ensures (r.AllSound P) (r.resolve seen token) := by
  induction seen, token using r.resolve_induction with
  | plain seen token hp =>
    intro hk
    rw [r.resolve_of_plain hp]
    exact sound_plainRules h hp hk
  | preset seen token classes he ih =>
    intro hk
    rw [r.resolve_of_expands he, ensures_map]
    intro rules hrules rule hr
    have hall := ensures_mapM (fun c hc => ih c hc fun family key hr => hk family key (.inside he hc hr))
      rules hrules
    obtain ⟨inner, hi, rfl⟩ := List.mem_map.1 hr
    obtain ⟨rs, hrs, hi⟩ := List.mem_flatten.1 hi
    exact (hall rs hrs inner hi).inherit (known_parse token)

theorem Reads.literals {seen : List String} {token key : String} {family : Family}
    (h : r.Reads seen token family key) (hn : r.presetClasses? (r.baseOf token) = none) :
    family.literals key = r.ownLiterals token := by
  cases h with
  | own _ _ _ hs hf =>
    rw [ownLiterals, hs]
    dsimp only
    rw [hf]
    rfl
  | inside he =>
    rw [he.preset] at hn
    cases hn

end Resolver

end UtilityCss
