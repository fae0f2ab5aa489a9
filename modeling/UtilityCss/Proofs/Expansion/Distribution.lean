import UtilityCss.Proofs.Expansion.Inheritance
import UtilityCss.Proofs.Table
import UtilityCss.Proofs.Token.Prefixes
import UtilityCss.Theme.Defaults

/-!
Words in front of a preset go to each of its classes: what the classes inherit along the expansion is what
they would read from the same words written in front of them.
-/

namespace UtilityCss.Resolver

open Token

-- Parsing is known by its lemmas; unfolded in unification it never ends.
attribute [local irreducible] Token.parse

variable (r : Resolver)

def FixedVariant (c : String) : Prop :=
  r.presetClasses? (r.baseOf c) = none ∧ (r.parse c).variant = none ∧
    ∃ d, r.utilities.get? (r.baseOf c) = some (.declaration d) ∧ d.variants ≠ []

structure Distributable (P : List String) (x : String) (classes : List String) : Prop where
  known : ∀ p ∈ P, r.words.Known p
  nonempty : ∀ p, r.words.Known p → p ≠ ""
  preset : r.presetClasses? x = some classes
  colonFree : ':' ∉ x.toList
  unsigned : Unsigned x
  apart : ∀ c ∈ classes, ¬ r.Reaches c x
  signs : ∀ c ∈ classes, SignAtBase r.words c
  variants : (∀ p ∈ P, p ∉ r.words.variants) ∨ ∀ c ∈ classes, ¬ r.FixedVariant c

/-- What the words and the tables must be besides: no word can be taken for a sign or for several words,
the preset has a name, and no fixed variant is empty. -/
structure Regular (P : List String) (x : String) (classes : List String) : Prop where
  named : x ≠ ""
  colonFree : ∀ p ∈ P, ':' ∉ p.toList
  unsigned : ∀ p, r.words.Known p → Unsigned p
  fixed : ∀ c ∈ classes, ∀ d, r.utilities.get? (r.baseOf c) = some (.declaration d) → "" ∉ d.variants

variable {r} {P classes : List String} {x c : String}

theorem Distributable.prefixes (h : r.Distributable P x classes) (hr : r.Regular P x classes) :
    Prefixes r.words P :=
  ⟨h.known, hr.colonFree, hr.unsigned⟩

theorem parse_prefixed_preset (h : r.Distributable P x classes) (hr : r.Regular P x classes) :
    r.parse (prefixed P x) = ⟨prefixed P x, x, false, (settingOf r.words P).breakpoint,
      (settingOf r.words P).variant, (settingOf r.words P).mode⟩ := by
  have hs : SignAtBase r.words x := fun hn => absurd h.unsigned hn
  have hp := parse_prefixed (h.prefixes hr) hs
  rw [parse_name h.colonFree h.unsigned] at hp
  exact hp

theorem nests_prefixed (h : r.Distributable P x classes) (hr : r.Regular P x classes)
    (hc : c ∈ classes) : Nests (r.parse (prefixed P x)) (r.parse c) (r.parse (prefixed P c)) := by
  have hp := parse_prefixed (h.prefixes hr) (h.signs c hc)
  obtain ⟨hb, hm, hv⟩ := (sound_parse c).ne_empty h.nonempty
  change Nests _ (Token.parse r.words c) (Token.parse r.words (prefixed P c))
  rw [parse_prefixed_preset h hr, hp]
  constructor
  · rfl
  · rfl
  · exact (Rule.orElse_eq_or hb _).symm
  · exact (Rule.orElse_eq_or hm _).symm
  · exact (Rule.orElse_eq_or hv _).symm

theorem plainRules_prefixed (h : r.Distributable P x classes) (hr : r.Regular P x classes)
    (hc : c ∈ classes) (hn : ∀ others, ¬ r.Expands [] c others) :
    r.plainRules (prefixed P c) =
      (r.plainRules c).map (List.map (Rule.inherit (r.parse (prefixed P x)))) := by
  have ht := nests_prefixed h hr hc
  have hb : r.baseOf (prefixed P c) = r.baseOf c := ht.base
  rw [plainRules, plainRules, hb]
  by_cases he : r.baseOf c = ""
  · rw [if_pos he, if_pos he]
    rfl
  · rw [if_neg he, if_neg he, ownRules, ownRules, ht.base]
    have hfamily := r.familyRules_nests ht
    cases hu : r.utilities.get? (r.parse c).base with
    | none => exact hfamily
    | some e =>
      cases e with
      | group g => exact hfamily
      | preset s => exact hfamily
      | declaration d =>
        apply fixedRules_nests ht d
        · exact (Setting.Sound.ne_empty (sound_parse c) h.nonempty).2.2
        · exact hr.fixed c hc d hu
        · intro hnone hd
          rw [parse_prefixed_preset h hr]
          rcases h.variants with hP | hf
          · exact variant_settingOf hP
          · refine absurd ⟨?_, hnone, d, hu, hd⟩ (hf c hc)
            cases hp : r.presetClasses? (r.baseOf c) with
            | none => rfl
            | some others => exact absurd ⟨he, List.not_mem_nil, hp⟩ (hn others)

theorem resolve_prefixed_class (h : r.Distributable P x classes) (hr : r.Regular P x classes)
    (hc : c ∈ classes) :
    r.resolve [] (prefixed P c) =
      (r.resolve [x] c).map (List.map (Rule.inherit (r.parse (prefixed P x)))) := by
  have ht := nests_prefixed h hr hc
  have hb : r.baseOf (prefixed P c) = r.baseOf c := ht.base
  -- The preset is not come upon again, so it need not be under way.
  have hseen : r.resolve [x] c = r.resolve [] c := by
    apply r.resolve_congr_seen [x] c []
    intro name hname
    have hne : name ≠ x := fun he => h.apart c hc (he ▸ hname)
    simp [hne]
  rw [hseen]
  by_cases he : ∃ others, r.Expands [] c others
  · obtain ⟨others, he⟩ := he
    have hp : r.Expands [] (prefixed P c) others :=
      ⟨hb ▸ he.named, List.not_mem_nil, hb ▸ he.preset⟩
    rw [r.resolve_of_expands he, r.resolve_of_expands hp, hb]
    cases others.mapM (r.resolve [r.baseOf c]) with
    | error e => rfl
    | ok rules =>
      have hi : Rule.inherit (r.parse (prefixed P x)) ∘ Rule.inherit (r.parse c) =
          Rule.inherit (r.parse (prefixed P c)) := funext (Rule.inherit_inherit ht)
      simp [Except.map, gathered, hi]
  · have hn : ∀ others, ¬ r.Expands [] c others := fun others ho => he ⟨others, ho⟩
    have hp : ∀ others, ¬ r.Expands [] (prefixed P c) others := by
      intro others ho
      exact hn others ⟨hb ▸ ho.named, List.not_mem_nil, hb ▸ ho.preset⟩
    rw [r.resolve_of_plain hp, r.resolve_of_plain hn]
    exact plainRules_prefixed h hr hc hn

/-- The rules of the preset behind the words are those of its classes behind the words, in their order. -/
def Distributes (r : Resolver) (P : List String) (x : String) (classes : List String) : Prop :=
  r.resolve [] (prefixed P x) = (classes.mapM fun c => r.resolve [] (prefixed P c)).map List.flatten

theorem distributes (h : r.Distributable P x classes) (hr : r.Regular P x classes) :
    r.Distributes P x classes := by
  have hb : r.baseOf (prefixed P x) = x := by rw [baseOf, parse_prefixed_preset h hr]
  have he : r.Expands [] (prefixed P x) classes :=
    ⟨hb.symm ▸ hr.named, List.not_mem_nil, hb.symm ▸ h.preset⟩
  have hc : (classes.mapM fun c => r.resolve [] (prefixed P c)) = classes.mapM fun c =>
      (r.resolve [x] c).map (List.map (Rule.inherit (r.parse (prefixed P x)))) :=
    Outcome.mapM_congr fun c hc => resolve_prefixed_class h hr hc
  rw [Distributes, r.resolve_of_expands he, hb, hc, Outcome.mapM_map_result]
  cases classes.mapM (r.resolve [x]) with
  | error e => rfl
  | ok rules => simp [Except.map, gathered, List.map_flatten]

/-- Words distribute over the classes of a preset, and word by word: what a class behind the words reads
from them is what it inherits from the preset behind the words. -/
theorem prefixes_distribute (h : r.Distributable P x classes) (hr : r.Regular P x classes) :
    r.Distributes P x classes ∧
      ∀ c ∈ classes, Nests (r.parse (prefixed P x)) (r.parse c) (r.parse (prefixed P c)) :=
  ⟨distributes h hr, fun _ hc => nests_prefixed h hr hc⟩

section Standard

variable (theme : Theme) (presets : Table String String)

theorem mem_of_known_standard {p : String} (h : (standard theme presets).words.Known p) :
    p ∈ Vocabulary.breakpoints.keys ++ Vocabulary.modes ++ Vocabulary.variants.keys := by
  rcases h with h | h | h
  · exact List.mem_append_left _ (List.mem_append_left _ h)
  · exact List.mem_append_left _ (List.mem_append_right _ h)
  · exact List.mem_append_right _ h

theorem known_standard {p : String} (h : (standard theme presets).words.Known p) :
    p ≠ "" ∧ ':' ∉ p.toList ∧ Unsigned p := by
  have hall : ∀ q ∈ Vocabulary.breakpoints.keys ++ Vocabulary.modes ++ Vocabulary.variants.keys,
      q ≠ "" ∧ ':' ∉ q.toList ∧ q.toList.head? ≠ some '-' := by decide +kernel
  exact hall p (mem_of_known_standard theme presets h)

def fixedVariants : Entry → List String
  | .declaration d => d.variants
  | _ => []

theorem regular_standard (hn : x ≠ "") (hk : ∀ p ∈ P, (standard theme presets).words.Known p) :
    (standard theme presets).Regular P x classes := by
  constructor
  · exact hn
  · intro p hp
    exact (known_standard theme presets (hk p hp)).2.1
  · intro p hp
    exact (known_standard theme presets hp).2.2
  · intro c _ d hd
    have hall : ∀ e ∈ Entry.standard.entries, "" ∉ fixedVariants e.2 := Table.forall_ofList (by decide +kernel)
    exact hall _ ((Table.get?_eq_some_iff _ _ _).1 hd)

end Standard

def cards : Resolver :=
  .standard .standard (.ofList [
    ("card", "flex md:panel -mt-2"), ("panel", "hover:block sm:dark:row"), ("row", "lg:p-4 focus:-mx-1")])

theorem cards_ranked : cards.Ranked (fun name => (["row", "panel", "card"].idxOf name + 1) % 4)
    ["card", "flex", "md:panel", "-mt-2", "hover:block", "sm:dark:row", "lg:p-4", "focus:-mx-1"] := by
  decide +kernel

theorem cards_distributable :
    cards.Distributable ["sm", "hover", "light", "lg"] "card" ["flex", "md:panel", "-mt-2"] := by
  constructor
  · unfold Words.Known
    decide +kernel
  · intro p hp
    exact (known_standard _ _ hp).1
  · decide +kernel
  · decide
  · unfold Unsigned
    decide
  · intro c hc h
    have hm : c ∈ ["card", "flex", "md:panel", "-mt-2", "hover:block", "sm:dark:row", "lg:p-4",
        "focus:-mx-1"] := List.mem_cons_of_mem _ (List.mem_append_left _ hc)
    have hle := h.rank_le cards cards_ranked hm
    have hlt : ∀ d ∈ ["flex", "md:panel", "-mt-2"],
        (["row", "panel", "card"].idxOf (cards.baseOf d) + 1) % 4 < 3 := by decide +kernel
    exact absurd hle (Nat.not_le_of_lt (hlt c hc))
  · unfold SignAtBase Unsigned
    decide +kernel
  · refine Or.inr fun c hc hf => ?_
    obtain ⟨_, _, d, hd, hne⟩ := hf
    have hnone : ∀ e ∈ ["flex", "md:panel", "-mt-2"], ∀ f ∈ cards.utilities.get? (cards.baseOf e),
        fixedVariants f = [] := by decide +kernel
    exact hne (hnone c hc _ hd)

theorem prefixes_distribute_cards :
    cards.Distributable ["sm", "hover", "light", "lg"] "card" ["flex", "md:panel", "-mt-2"] ∧
      cards.Regular ["sm", "hover", "light", "lg"] "card" ["flex", "md:panel", "-mt-2"] ∧
        cards.Distributes ["sm", "hover", "light", "lg"] "card" ["flex", "md:panel", "-mt-2"] := by
  have hr : cards.Regular ["sm", "hover", "light", "lg"] "card" ["flex", "md:panel", "-mt-2"] :=
    regular_standard _ _ (by decide) cards_distributable.known
  exact ⟨cards_distributable, hr, (prefixes_distribute cards_distributable hr).1⟩

section Single

structure Single (r : Resolver) (P : List String) (x c : String) : Prop where
  known : ∀ p ∈ P, p ∈ r.breakpoints.keys ∧ p ∉ Vocabulary.variants.keys
  nonempty : ∀ p ∈ r.breakpoints.keys, p ≠ ""
  preset : r.presetClasses? x = some [c]
  name : ':' ∉ x.toList ∧ x.toList.head? ≠ some '-'
  plain : r.presetClasses? (r.baseOf c) = none ∧ x ≠ r.baseOf c
  sign : c.toList.head? = some '-' → c = "-" ++ r.baseOf c

theorem Single.distributable (h : r.Single P x c) : r.Distributable P x [c] := by
  have hwords : ∀ q ∈ Vocabulary.modes ++ Vocabulary.variants.keys, q ≠ "" := by decide +kernel
  constructor
  · intro p hp
    exact Or.inl (h.known p hp).1
  · intro p hp
    rcases hp with hp | hp | hp
    · exact h.nonempty p hp
    · exact hwords p (List.mem_append_left _ hp)
    · exact hwords p (List.mem_append_right _ hp)
  · exact h.preset
  · exact h.name.1
  · exact h.name.2
  · intro d hd hreach
    rw [List.mem_singleton.1 hd] at hreach
    obtain ⟨hplain, hne⟩ := h.plain
    cases hreach with
    | base => exact hne rfl
    | inside hn hp hc hin =>
      rw [hplain] at hp
      cases hp
  · intro d hd hu
    rw [List.mem_singleton.1 hd] at hu ⊢
    exact h.sign (not_not.1 hu)
  · exact Or.inl fun p hp => (h.known p hp).2

theorem distributes_single : r.Distributes P x [c] ↔
    r.resolve [] (prefixed P x) = r.resolve [] (prefixed P c) := by
  rw [Distributes, Outcome.mapM_single]
  cases r.resolve [] (prefixed P c) <;> simp [Except.map]

theorem resolve_single {seen : List String} {token : String} (h : r.Expands seen token [c])
    (hc : r.presetClasses? (r.baseOf c) = none) :
    r.resolve seen token = (r.plainRules c).map (List.map (Rule.inherit (r.parse token))) := by
  rw [r.resolve_of_expands h, Outcome.mapM_single, r.resolve_of_not_preset hc]
  cases r.plainRules c <;> simp [Except.map, gathered]

def small (breakpoints : List String) (x classes name : String) (entry : Entry) : Resolver :=
  let utilities : Table String Entry := .ofList [(name, entry)]
  ⟨.ofTheme .standard, .ofList [(x, classes)], utilities,
    .ofList (Registry.families ++ Registry.groupFamilies utilities), .ofList (breakpoints.map (·, "9px"))⟩

def nameless : Resolver :=
  small ["sm"] "" "c" "c" (.declare "color" "red")

theorem nameless_fails : nameless.Single ["sm"] "" "c" ∧ ¬ nameless.Distributes ["sm"] "" ["c"] := by
  constructor
  · constructor <;> decide +kernel
  · rw [distributes_single, resolve_of_plain, resolve_of_not_preset]
    · decide +kernel
    · decide +kernel
    · intro classes he
      exact he.named (by decide +kernel)

def unmarked : Resolver :=
  small ["sm"] "x" "c" "c" (.pinned [""] [("color", "red")])

theorem unmarked_fails : unmarked.Single ["sm"] "x" "c" ∧ ¬ unmarked.Distributes ["sm"] "x" ["c"] := by
  constructor
  · constructor <;> decide +kernel
  · rw [distributes_single, resolve_single (c := "c"), resolve_of_not_preset]
    · decide +kernel
    · decide +kernel
    · constructor <;> decide +kernel
    · decide +kernel

def signed : Resolver :=
  small ["-a"] "x" "c" "a:c" (.declare "color" "red")

theorem signed_fails : signed.Single ["-a"] "x" "c" ∧ ¬ signed.Distributes ["-a"] "x" ["c"] := by
  constructor
  · constructor <;> decide +kernel
  · rw [distributes_single, resolve_of_not_preset, resolve_of_not_preset]
    · intro h
      have hl := congrArg (Except.map List.length) h
      revert hl
      decide +kernel
    · decide +kernel
    · decide +kernel

def mistaken : Resolver :=
  small ["sm", "-a"] "x" "-a:c" "a:c" (.declare "color" "red")

theorem mistaken_fails :
    mistaken.Single ["sm"] "x" "-a:c" ∧ ¬ mistaken.Distributes ["sm"] "x" ["-a:c"] := by
  constructor
  · constructor <;> decide +kernel
  · rw [distributes_single, resolve_single (c := "-a:c"), resolve_of_not_preset]
    · intro h
      have hl := congrArg (Except.map List.length) h
      revert hl
      decide +kernel
    · decide +kernel
    · constructor <;> decide +kernel
    · decide +kernel

def split : Resolver :=
  small ["a:b"] "x" "c" "a:b:c" (.declare "color" "red")

theorem split_fails : split.Single ["a:b"] "x" "c" ∧ ¬ split.Distributes ["a:b"] "x" ["c"] := by
  constructor
  · constructor <;> decide +kernel
  · rw [distributes_single, resolve_of_not_preset, resolve_of_not_preset]
    · decide +kernel
    · decide +kernel
    · decide +kernel

theorem prefixes_distribute_only_if_regular :
    (nameless.Distributable ["sm"] "" ["c"] ∧ ¬ nameless.Distributes ["sm"] "" ["c"]) ∧
    (unmarked.Distributable ["sm"] "x" ["c"] ∧ ¬ unmarked.Distributes ["sm"] "x" ["c"]) ∧
    (signed.Distributable ["-a"] "x" ["c"] ∧ ¬ signed.Distributes ["-a"] "x" ["c"]) ∧
    (mistaken.Distributable ["sm"] "x" ["-a:c"] ∧ ¬ mistaken.Distributes ["sm"] "x" ["-a:c"]) ∧
    (split.Distributable ["a:b"] "x" ["c"] ∧ ¬ split.Distributes ["a:b"] "x" ["c"]) := by
  refine ⟨?_, ?_, ?_, ?_, ?_⟩
  · exact ⟨nameless_fails.1.distributable, nameless_fails.2⟩
  · exact ⟨unmarked_fails.1.distributable, unmarked_fails.2⟩
  · exact ⟨signed_fails.1.distributable, signed_fails.2⟩
  · exact ⟨mistaken_fails.1.distributable, mistaken_fails.2⟩
  · exact ⟨split_fails.1.distributable, split_fails.2⟩

end Single

end UtilityCss.Resolver
