import Mathlib.Data.List.Forall2
import UtilityCss.Proofs.Expansion.Step
import UtilityCss.Proofs.Token.Prefixes
import UtilityCss.Proofs.Utility.Measure
import UtilityCss.Proofs.Utility.Properties
import UtilityCss.Proofs.Utility.Registry
import UtilityCss.Theme.Defaults

/-!
A minus sign in front of a class. It leaves the words and the name as they are; the rules of the class keep
their contexts and properties, and the values of a fixed declaration, of a family that takes a sign, and in
the function of `scale` are negated. A preset does not pass the sign on.
-/

namespace UtilityCss

open Token Outcome

namespace Token

def signed (t : Token) (raw : String) : Token :=
  { t with raw := raw, negated := true }

@[simp] theorem signed_base (t : Token) (raw : String) : (t.signed raw).base = t.base := rfl

@[simp] theorem signed_negated (t : Token) (raw : String) : (t.signed raw).negated = true := rfl

@[simp] theorem signed_breakpoint (t : Token) (raw : String) : (t.signed raw).breakpoint = t.breakpoint := rfl

@[simp] theorem signed_mode (t : Token) (raw : String) : (t.signed raw).mode = t.mode := rfl

@[simp] theorem signed_variant (t : Token) (raw : String) : (t.signed raw).variant = t.variant := rfl

theorem parse_minus {w : Words} {c : String} (h : (parse w c).negated = false) :
    parse w ("-" ++ c) = (parse w c).signed ("-" ++ c) := by
  rcases unsigned_or_minus c with hc | ⟨s, rfl⟩
  · rw [parse_eq, parse_eq, splitSign_minus, splitSign_of_unsigned hc]
    rfl
  · rw [parse_eq, splitSign_minus] at h
    cases h

end Token

namespace Rule

def properties (r : Rule) : List (List Char) :=
  r.lines.map fun line => line.toList.takeWhile (· ≠ ':')

structure Alike (a b : Rule) : Prop where
  context : b.context = a.context
  properties : b.properties = a.properties

inductive Revalued (R : String → String → Prop) : Rule → Rule → Prop
  | mk {ds es : List (String × String)}
      (h : List.Forall₂ (fun d e => ':' ∉ d.1.toList ∧ e.1 = d.1 ∧ R d.2 e.2) ds es) (c : Context) :
      Revalued R ⟨linesOf ds, c⟩ ⟨linesOf es, c⟩

variable {R : String → String → Prop}

theorem property_line {property : String} (h : ':' ∉ property.toList) (value : String) :
    (property ++ ": " ++ value ++ ";").toList.takeWhile (· ≠ ':') = property.toList := by
  have hfront : ∀ c ∈ property.toList, decide (c ≠ ':') = true :=
    fun c hc => decide_eq_true fun he => h (he ▸ hc)
  have hcolon : ": ".toList = [':', ' '] := rfl
  rw [String.toList_append, String.toList_append, String.toList_append, hcolon, List.append_assoc, List.append_assoc,
    List.takeWhile_append_of_pos hfront, List.cons_append, List.takeWhile_cons_of_neg (by simp), List.append_nil]

theorem Revalued.alike {a b : Rule} (h : Revalued R a b) : Alike a b := by
  obtain ⟨h, c⟩ := h
  refine ⟨rfl, ?_⟩
  induction h with
  | nil => rfl
  | cons hd _ ih =>
    obtain ⟨hcolon, hname, _⟩ := hd
    simp only [properties, linesOf, List.map_cons, hname, property_line hcolon] at ih ⊢
    rw [ih]

theorem revalued_map {ds : List (String × String)} (hd : ∀ d ∈ ds, ':' ∉ d.1.toList) {f : String → String}
    (hf : ∀ d ∈ ds, R d.2 (f d.2)) (c : Context) :
    Revalued R ⟨linesOf ds, c⟩ ⟨linesOf (ds.map fun d => (d.1, f d.2)), c⟩ := by
  apply Revalued.mk
  rw [List.forall₂_map_right_iff, List.forall₂_same]
  exact fun d hm => ⟨hd d hm, rfl, hf d hm⟩

end Rule

theorem Family.resolve_signed {family : Family} (h : family ≠ .scale) (at_ : Surroundings) (key : String) :
    family.resolve at_ key true = family.resolve at_ key false := by
  cases family <;> first | rfl | exact absurd rfl h

namespace Resolver

attribute [local irreducible] Token.parse

variable (r : Resolver)

structure Named : Prop where
  declarations : ∀ name d, r.utilities.get? name = some (.declaration d) → ∀ p ∈ d.properties, ':' ∉ p.toList
  families : ∀ name family, r.registry.get? name = some family → ∀ p ∈ family.properties, ':' ∉ p.toList

structure Means (base : String) (family : Family) (s : Resolution) : Prop where
  undeclared : ∀ d, r.utilities.get? base ≠ some (.declaration d)
  known : ∃ name key, r.registry.split? base = some (name, key) ∧ r.registry.get? name = some family ∧
    family.resolve r.surroundings key false = .ok (some s)

/-- What a sign makes of the values of a name that is no preset. -/
inductive Change (base : String) : String → String → Prop
  | fixed {d : Declaration} (hd : r.utilities.get? base = some (.declaration d)) (v : String) :
      Change base v (Value.negate v)
  | negatable {family : Family} {s : Resolution} (hm : r.Means base family s) (hs : s.negatable = true) (v : String) :
      Change base v (Value.negate v)
  | scale {s : Resolution} (hm : r.Means base .scale s) (f : String) :
      Change base ("scale(" ++ f ++ ")") ("scale(" ++ Value.negate f ++ ")")
  | other {family : Family} {s : Resolution} (hm : r.Means base family s) (hs : s.negatable = false)
      (hf : family ≠ .scale) (v : String) : Change base v v

variable {r}

theorem properties_pairs (d : Declaration) :
    Ensures (fun pairs => ∀ p ∈ pairs, p.1 ∈ d.properties) d.pairs := by
  rw [Declaration.pairs]
  split
  · rw [ensures_ok, List.forall_mem_map]
    exact fun p hp => hp
  · split
    · exact ensures_error _
    · split
      · exact ensures_error _
      · exact (ensures_ok _).2 fun p hp => (List.of_mem_zip hp).1

def Signs (R : String → String → Prop) : Except Fault (List Rule) → Except Fault (List Rule) → Prop :=
  Both (List.Forall₂ (Rule.Revalued R))

theorem signs_fixedRules {t : Token} (ht : t.negated = false) (raw : String) {d : Declaration}
    (hd : ∀ p ∈ d.properties, ':' ∉ p.toList) {R : String → String → Prop} (hR : ∀ v, R v (Value.negate v)) :
    Signs R (fixedRules t d) (fixedRules (t.signed raw) d) := by
  apply both_map
  intro pairs hpairs
  have hcolon : ∀ p ∈ pairs, ':' ∉ p.1.toList := fun p hp => hd _ (properties_pairs d pairs hpairs p hp)
  have hvariants (vs : List (Option String)) : List.Forall₂ (Rule.Revalued R)
      (vs.map fun v => ⟨Rule.linesOf pairs, ⟨t.breakpoint, t.mode, v, none⟩⟩)
      (vs.map fun v => ⟨Rule.linesOf (pairs.map fun p => (p.1, Value.negate p.2)), ⟨t.breakpoint, t.mode, v, none⟩⟩) := by
    rw [List.forall₂_map_left_iff, List.forall₂_map_right_iff, List.forall₂_same]
    exact fun v _ => Rule.revalued_map hcolon (fun p _ => hR p.2) _
  rw [ht]
  exact hvariants _

theorem revalued_familyRule {t : Token} (ht : t.negated = false) (raw : String) {s : Resolution}
    (hs : ∀ d ∈ s.declarations, ':' ∉ d.1.toList) {R : String → String → Prop}
    (hR : ∀ v, R v (if s.negatable then Value.negate v else v)) :
    Rule.Revalued R (familyRule t s) (familyRule (t.signed raw) s) := by
  have hmap := Rule.revalued_map hs (f := fun v => if s.negatable then Value.negate v else v)
    (fun d _ => hR d.2) ⟨t.breakpoint, t.mode, t.variant, s.selector⟩
  rw [familyRule, familyRule, ht]
  by_cases hn : s.negatable = true
  · simpa [hn] using hmap
  · simpa [hn] using hmap

theorem signs_scale (t : Token) (raw key : String) {R : String → String → Prop}
    (hR : ∀ s, Family.resolve r.surroundings key .scale false = .ok (some s) →
      ∀ f, R ("scale(" ++ f ++ ")") ("scale(" ++ Value.negate f ++ ")")) :
    Signs R ((Family.resolve r.surroundings key .scale false).map fun o => (o.map (familyRule t)).toList)
      ((Family.resolve r.surroundings key .scale true).map fun o => (o.map (familyRule (t.signed raw))).toList) := by
  rw [Family.resolve] at hR ⊢
  rw [Family.resolve]
  cases hf : Family.scaleFactor key with
  | none => exact .ok .nil
  | some f =>
    rw [hf] at hR
    have hvalue := hR _ rfl f
    have hcolon : ':' ∉ "transform".toList := by decide
    have hrule : Rule.Revalued R
        ⟨Rule.linesOf [("transform", "scale(" ++ f ++ ")")], ⟨t.breakpoint, t.mode, t.variant, none⟩⟩
        ⟨Rule.linesOf [("transform", "scale(" ++ Value.negate f ++ ")")], ⟨t.breakpoint, t.mode, t.variant, none⟩⟩ := by
      refine .mk (.cons ?_ .nil) _
      exact ⟨hcolon, rfl, hvalue⟩
    exact .ok (.cons (by simpa [familyRule, Resolution.unsigned] using hrule) .nil)

theorem signs_familyRules (hn : r.Named) {t : Token} (ht : t.negated = false) (raw : String)
    (hu : ∀ d, r.utilities.get? t.base ≠ some (.declaration d)) :
    Signs (r.Change t.base) (r.familyRules t) (r.familyRules (t.signed raw)) := by
  have hnone : Signs (r.Change t.base) (.ok []) (.ok []) := .ok .nil
  rw [familyRules, familyRules, ht, signed_base, signed_negated]
  cases hs : r.registry.split? t.base with
  | none => exact hnone
  | some p =>
    obtain ⟨name, key⟩ := p
    dsimp only
    cases hf : r.registry.get? name with
    | none => exact hnone
    | some family =>
      dsimp only
      have hmeans {s : Resolution} (h : family.resolve r.surroundings key false = .ok (some s)) :
          r.Means t.base family s := ⟨hu, name, key, hs, hf, h⟩
      by_cases hscale : family = .scale
      · subst hscale
        exact signs_scale t raw key fun s hs f => .scale (hmeans hs) f
      · rw [Family.resolve_signed hscale]
        apply both_map
        intro o ho
        cases o with
        | none => exact .nil
        | some s =>
          have hcolon : ∀ d ∈ s.declarations, ':' ∉ d.1.toList := fun d hd =>
            hn.families name family hf _ (Family.sets_resolve r.surroundings key family false _ ho s rfl d hd)
          refine .cons (revalued_familyRule ht raw hcolon fun v => ?_) .nil
          by_cases hneg : s.negatable = true
          · rw [if_pos hneg]
            exact .negatable (hmeans ho) hneg v
          · rw [if_neg hneg]
            exact .other (hmeans ho) (Bool.eq_false_iff.2 hneg) hscale v

theorem parse_minus {u : String} (ht : (r.parse u).negated = false) :
    r.parse ("-" ++ u) = (r.parse u).signed ("-" ++ u) :=
  Token.parse_minus ht

theorem baseOf_minus {u : String} (ht : (r.parse u).negated = false) : r.baseOf ("-" ++ u) = r.baseOf u := by
  rw [baseOf, parse_minus ht, signed_base, ← baseOf]

theorem resolve_minus_of_plain (hn : r.Named) {u : String} (ht : (r.parse u).negated = false)
    (hp : r.presetClasses? (r.baseOf u) = none) :
    Signs (r.Change (r.baseOf u)) (r.resolve [] u) (r.resolve [] ("-" ++ u)) := by
  have hbase := baseOf_minus ht
  rw [r.resolve_of_not_preset hp, r.resolve_of_not_preset (hbase ▸ hp), plainRules, plainRules, hbase]
  split
  · exact .ok .nil
  · rw [parse_minus ht, ownRules, ownRules, signed_base]
    split
    · rename_i d hd
      exact signs_fixedRules ht _ (hn.declarations _ d hd) (.fixed hd)
    · rename_i hd
      exact signs_familyRules hn ht _ hd

theorem resolve_minus_of_preset {u : String} (ht : (r.parse u).negated = false) {classes : List String}
    (hp : r.presetClasses? (r.baseOf u) = some classes) : r.resolve [] ("-" ++ u) = r.resolve [] u := by
  have hbase := baseOf_minus ht
  by_cases hn : r.baseOf u = ""
  · have hplain (token : String) (h : r.baseOf token = "") : r.resolve [] token = .ok [] := by
      rw [r.resolve_of_plain fun _ he => he.named h, plainRules, if_pos h]
    rw [hplain u hn, hplain _ (hbase.trans hn)]
  · have he : r.Expands [] u classes := ⟨hn, List.not_mem_nil, hp⟩
    have he' : r.Expands [] ("-" ++ u) classes := by
      refine ⟨?_, List.not_mem_nil, ?_⟩
      · rwa [hbase]
      · rwa [hbase]
    have hgathered : r.gathered ("-" ++ u) = r.gathered u := by
      funext rules
      rw [gathered, gathered, parse_minus ht]
      rfl
    rw [r.resolve_of_expands he, r.resolve_of_expands he', hbase, hgathered]

def namedEntry : Entry → Prop
  | .declaration d => ∀ p ∈ d.properties, ':' ∉ p.toList
  | _ => True

instance : DecidablePred namedEntry
  | .declaration d => inferInstanceAs (Decidable (∀ p ∈ d.properties, ':' ∉ p.toList))
  | .group _ | .preset _ => .isTrue trivial

theorem named_standard (theme : Theme) (presets breakpoints : Table String String) :
    Named ⟨.ofTheme theme, presets, Entry.standard, Registry.standard, breakpoints⟩ := by
  have hentries : ∀ e ∈ Entry.standard.entries, namedEntry e.2 := Table.forall_ofList (by decide +kernel)
  have hfamilies : ∀ e ∈ Registry.standard.entries, ∀ p ∈ e.2.properties, ':' ∉ p.toList := by
    rw [Registry.standard_eq_listed]
    decide +kernel
  constructor
  · intro name d hd
    exact hentries _ ((Table.get?_eq_some_iff _ _ _).1 hd)
  · intro name family hf
    exact hfamilies _ ((Table.get?_eq_some_iff _ _ _).1 hf)

/-- With the built-in tables a class and the class with a minus sign in front are both refused, or have rules
of the same contexts and properties. The sign does nothing to a preset. Of any other name it negates the values
of a fixed declaration, those of a family that takes a sign and the factor of a scale, and no others; and to
negate is to put the sign before a measure. -/
theorem sign_changes_values_only {theme : Theme} {presets breakpoints : Table String String} {r : Resolver}
    (hr : Resolver.build theme presets Entry.standard breakpoints = .ok r) {u : String}
    (hu : (r.parse u).negated = false) :
    Both (List.Forall₂ Rule.Alike) (r.resolve [] u) (r.resolve [] ("-" ++ u)) ∧
      (∀ classes, r.presetClasses? (r.baseOf u) = some classes → r.resolve [] ("-" ++ u) = r.resolve [] u) ∧
      (r.presetClasses? (r.baseOf u) = none →
        Signs (r.Change (r.baseOf u)) (r.resolve [] u) (r.resolve [] ("-" ++ u))) ∧
      ∀ v, (Value.Measure v ↔ Value.negate v = "-" ++ v) ∧ (¬ Value.Measure v → Value.negate v = v) := by
  rw [build_standard, Except.ok.injEq] at hr
  have hn : r.Named := hr ▸ named_standard theme presets breakpoints
  refine ⟨?_, fun classes => resolve_minus_of_preset hu, resolve_minus_of_plain hn hu,
    fun v => ⟨(Value.negate_eq_iff v).symm, Value.negate_of_not_measure⟩⟩
  cases hp : r.presetClasses? (r.baseOf u) with
  | none =>
    apply (resolve_minus_of_plain hn hu hp).mono
    exact fun rules rules' h => h.imp fun a b hab => hab.alike
  | some classes =>
    rw [resolve_minus_of_preset hu hp]
    apply both_self
    exact fun rules => List.forall₂_same.2 fun a _ => ⟨rfl, rfl⟩

theorem sign_changes_values_only_scale :
    ∃ r, Resolver.build .standard .empty Entry.standard Vocabulary.breakpoints = .ok r ∧
      (r.parse "md:scale-50").negated = false ∧
      Signs (r.Change "scale-50") (r.resolve [] "md:scale-50") (r.resolve [] ("-" ++ "md:scale-50")) := by
  have hr := build_standard .standard .empty Vocabulary.breakpoints
  have hu : ((standard .standard .empty).parse "md:scale-50").negated = false := by decide +kernel
  have hp : (standard .standard .empty).presetClasses? ((standard .standard .empty).baseOf "md:scale-50") = none := by
    rw [standard_eq_listed]
    decide +kernel
  have hb : (standard .standard .empty).baseOf "md:scale-50" = "scale-50" := by decide +kernel
  obtain ⟨_, _, hsigns, _⟩ := sign_changes_values_only hr hu
  refine ⟨_, hr, hu, ?_⟩
  rw [← hb]
  exact hsigns hp

end Resolver

end UtilityCss
