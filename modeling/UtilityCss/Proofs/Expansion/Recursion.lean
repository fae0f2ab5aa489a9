import UtilityCss.Proofs.Expansion.Step

/-!
The expansion of presets as a bare recursion, with no measure that falls: a recursion that does not end
yields nothing. What keeps a preset from being expanded is a parameter, so that the recursion with the
guard against cycles and the one without any have the same rules.
-/

namespace UtilityCss.Resolver

-- Parsing is known by its lemmas; unfolded in unification it takes long.
attribute [local irreducible] Token.parse

variable (r : Resolver) (held : List String → String → Bool)

mutual
/-- What the recursion yields for a token, `held` telling which names are not expanded when those in
`seen` are under way. -/
inductive Yields : List String → String → Except Fault (List Rule) → Prop
  | nameless {seen : List String} {token : String} (hn : r.baseOf token = "") : Yields seen token (.ok [])
  | own {seen : List String} {token : String} (hn : r.baseOf token ≠ "")
      (hp : r.presetClasses? (r.baseOf token) = none ∨ held seen (r.baseOf token) = true) :
      Yields seen token (r.ownRules (r.parse token))
  | preset {seen classes : List String} {token : String} {out : Except Fault (List (List Rule))}
      (hn : r.baseOf token ≠ "") (hp : r.presetClasses? (r.baseOf token) = some classes)
      (hh : held seen (r.baseOf token) = false) (h : YieldsAll (r.baseOf token :: seen) classes out) :
      Yields seen token (out.map (r.gathered token))

inductive YieldsAll : List String → List String → Except Fault (List (List Rule)) → Prop
  | nil {seen : List String} : YieldsAll seen [] (.ok [])
  | fault {seen classes : List String} {c : String} {e : Fault} (h : Yields seen c (.error e)) :
      YieldsAll seen (c :: classes) (.error e)
  | cons {seen classes : List String} {c : String} {rules : List Rule}
      {out : Except Fault (List (List Rule))} (h : Yields seen c (.ok rules))
      (ht : YieldsAll seen classes out) : YieldsAll seen (c :: classes) (out.map (rules :: ·))
end

def guarded (seen : List String) (name : String) : Bool :=
  seen.contains name

def unguarded (_ : List String) (_ : String) : Bool :=
  false

variable {r held} {seen classes : List String} {token : String}

theorem yieldsAll_iff {f : String → Except Fault (List Rule)}
    (h : ∀ c ∈ classes, ∀ out, r.Yields held seen c out ↔ out = f c) :
    ∀ out, r.YieldsAll held seen classes out ↔ out = classes.mapM f := by
  induction classes with
  | nil =>
    intro out
    constructor
    · rintro ⟨⟩
      rfl
    · rintro rfl
      exact .nil
  | cons c classes ih =>
    intro out
    have hc := h c (List.mem_cons_self ..)
    have hrest := ih fun d hd => h d (List.mem_cons_of_mem c hd)
    rw [List.mapM_cons]
    constructor
    · intro ho
      cases ho with
      | fault he => rw [← (hc _).1 he]; rfl
      | @cons _ _ _ rules rest he ht =>
        rw [← (hc _).1 he, ← (hrest _).1 ht]
        cases rest <;> rfl
    · rintro rfl
      cases hf : f c with
      | error e => exact .fault ((hc _).2 hf.symm)
      | ok rules =>
        have ht := YieldsAll.cons ((hc _).2 hf.symm) ((hrest _).2 rfl)
        cases hm : classes.mapM f with
        | error e => rwa [hm] at ht
        | ok rest => rwa [hm] at ht

theorem guarded_eq_false_iff {name : String} : guarded seen name = false ↔ name ∉ seen := by
  rw [guarded, ← Bool.not_eq_true, List.contains_iff_mem]

theorem yields_of_plain (h : ∀ classes, ¬ r.Expands seen token classes)
    (hh : held seen (r.baseOf token) = guarded seen (r.baseOf token)) (out : Except Fault (List Rule)) :
    r.Yields held seen token out ↔ out = r.plainRules token := by
  rw [plainRules]
  constructor
  · rintro (hn | ⟨hn, _⟩ | ⟨hn, hp, hf, _⟩)
    · rw [if_pos hn]
    · rw [if_neg hn]
    · rw [hh, guarded_eq_false_iff] at hf
      exact absurd ⟨hn, hf, hp⟩ (h _)
  · rintro rfl
    by_cases hn : r.baseOf token = ""
    · rw [if_pos hn]
      exact .nameless hn
    · rw [if_neg hn]
      apply Yields.own hn
      cases hp : r.presetClasses? (r.baseOf token) with
      | none => exact Or.inl rfl
      | some classes =>
        right
        by_contra hf
        rw [Bool.not_eq_true, hh, guarded_eq_false_iff] at hf
        exact h classes ⟨hn, hf, hp⟩

theorem yields_of_expands (h : r.Expands seen token classes)
    (hh : held seen (r.baseOf token) = guarded seen (r.baseOf token)) (out : Except Fault (List Rule)) :
    r.Yields held seen token out ↔
      ∃ rules, r.YieldsAll held (r.baseOf token :: seen) classes rules ∧
        out = rules.map (r.gathered token) := by
  have hf : held seen (r.baseOf token) = false := hh.trans (guarded_eq_false_iff.2 h.fresh)
  constructor
  · rintro (hn | ⟨_, hp | hp⟩ | ⟨_, hp, _, hall⟩)
    · exact absurd hn h.named
    · rw [h.preset] at hp
      cases hp
    · rw [hf] at hp
      cases hp
    · rw [h.preset] at hp
      cases hp
      exact ⟨_, hall, rfl⟩
  · rintro ⟨rules, hall, rfl⟩
    exact .preset h.named h.preset hf hall

theorem yields_iff_resolve (inv : List String → String → Prop)
    (agrees : ∀ seen token, inv seen token →
      held seen (r.baseOf token) = guarded seen (r.baseOf token))
    (inside : ∀ seen token classes, inv seen token → r.Expands seen token classes →
      ∀ c ∈ classes, inv (r.baseOf token :: seen) c)
    (seen : List String) (token : String) (hi : inv seen token) :
    ∀ out, r.Yields held seen token out ↔ out = r.resolve seen token := by
  induction seen, token using r.resolve_induction with
  | plain seen token h =>
    intro out
    rw [yields_of_plain h (agrees seen token hi), r.resolve_of_plain h]
  | preset seen token classes h ih =>
    intro out
    have hall := yieldsAll_iff fun c hc => ih c hc (inside seen token classes hi h c hc)
    rw [yields_of_expands h (agrees seen token hi), r.resolve_of_expands h]
    simp only [hall, exists_eq_left]

theorem yields_guarded (seen : List String) (token : String) (out : Except Fault (List Rule)) :
    r.Yields guarded seen token out ↔ out = r.resolve seen token := by
  apply yields_iff_resolve fun _ _ => True
  · exact fun _ _ _ => rfl
  · exact fun _ _ _ _ _ _ _ => trivial
  · trivial

end UtilityCss.Resolver
