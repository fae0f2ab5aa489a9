import UtilityCss.Proofs.Cascade.Style
import UtilityCss.Proofs.Expansion.Families
import UtilityCss.Proofs.Utility.Literal
import UtilityCss.Theme.Defaults

namespace UtilityCss.Registry

open Text Token

variable {name literal : String} {family : Family} {presets : Table String String}

structure Regular (name : String) (family : Family) : Prop where
  bracketFree : '[' ∉ name.toList
  colonFree : ':' ∉ name.toList
  unsigned : ∃ c ∈ name.toList.head?, c ≠ '-'
  properties : family.properties ≠ []
  propertyColonFree : ∀ p ∈ family.properties, ':' ∉ p.toList

instance (name : String) (family : Family) : Decidable (Regular name family) :=
  decidable_of_iff ('[' ∉ name.toList ∧ ':' ∉ name.toList ∧ (∃ c ∈ name.toList.head?, c ≠ '-') ∧
    family.properties ≠ [] ∧ ∀ p ∈ family.properties, ':' ∉ p.toList)
    ⟨fun ⟨h₁, h₂, h₃, h₄, h₅⟩ => ⟨h₁, h₂, h₃, h₄, h₅⟩, fun h =>
      ⟨h.bracketFree, h.colonFree, h.unsigned, h.properties, h.propertyColonFree⟩⟩

theorem regular_of_registered (h : (name, family) ∈ standard.entries) : Regular name family := by
  refine Table.forall_ofList (P := fun e => Regular e.1 e.2) ?_ _ h
  rw [List.forall_mem_append]
  refine ⟨by decide +kernel, ?_⟩
  rw [groupFamilies, List.forall_mem_filterMap]
  exact Table.forall_ofList (by decide +kernel)

theorem bracket_mem_of_longer {other : String} (h : Heads other (name ++ "-" ++ bracketed literal))
    (hlt : name.length < other.length) : '[' ∈ other.toList := by
  rcases h with rfl | h
  · simp [bracketed]
  · have hfront : (name ++ "-[").toList <+: (name ++ "-" ++ bracketed literal).toList := by
      simp [bracketed]
    have hstarts : (name ++ "-[").toList <+: (other ++ "-").toList := by
      apply List.prefix_of_prefix_length_le hfront h
      rw [String.length_toList, String.length_toList, String.length_append, String.length_append]
      exact Nat.add_le_add_right hlt 1
    have hmem : '[' ∈ (other ++ "-").toList := hstarts.subset (by simp)
    simpa using hmem

theorem belongs_bracketed (h : (name, family) ∈ standard.entries) (literal : String)
    (hpreset : name ++ "-" ++ bracketed literal ∉ presets.keys) :
    Belongs presets (name ++ "-" ++ bracketed literal) name (bracketed literal) family := by
  obtain ⟨c, hc, hsign⟩ := (regular_of_registered h).unsigned
  constructor
  case split =>
    refine split?_eq_some_iff.2 ⟨List.mem_map_of_mem h, .inr rfl, fun other ho hother => ?_⟩
    apply Nat.le_of_not_lt
    intro hlt
    obtain ⟨⟨_, family'⟩, he, rfl⟩ := List.mem_map.1 ho
    exact (regular_of_registered he).bracketFree (bracket_mem_of_longer hother hlt)
  case registered => exact h
  case unpreset => exact hpreset
  case unlisted =>
    have hall : ∀ e ∈ Entry.standard.entries, '[' ∉ e.1.toList := Table.forall_ofList (by decide +kernel)
    intro hm
    obtain ⟨e, he, hkey⟩ := List.mem_map.1 hm
    apply hall e he
    rw [hkey]
    simp [bracketed]
  case noWord =>
    have hwords : ∀ p ∈ Vocabulary.breakpoints.keys ++ Vocabulary.modes ++ Vocabulary.variants.keys,
        '[' ∉ p.toList := by decide +kernel
    have hfront : ':' ∉ (name ++ "-[").toList := by
      simpa using (regular_of_registered h).colonFree
    have hbase : name ++ "-" ++ bracketed literal = name ++ "-[" ++ (literal ++ "]") := by
      rw [← String.toList_inj]
      simp [bracketed]
    intro first hf hknown
    rw [hbase, pieces_append hfront, List.head?_modifyHead] at hf
    obtain ⟨back, _, rfl⟩ := Option.map_eq_some_iff.1 hf
    apply hwords _ (Resolver.mem_of_known_standard .empty .empty hknown)
    simp
  case unsigned =>
    rw [String.append_assoc, Unsigned, String.toList_append, List.head?_append, Option.mem_def.1 hc]
    simpa using hsign

theorem mem_linesOf_iff (h : (name, family) ∈ standard.entries) {ds : List (String × String)}
    (hds : ∀ d ∈ ds, d.1 ∈ family.properties) {property : String} (hp : property ∈ family.properties) (value : String) :
    property ++ ": " ++ value ++ ";" ∈ Rule.linesOf ds ↔ (property, value) ∈ ds := by
  have hcolon := (regular_of_registered h).propertyColonFree
  rw [Rule.linesOf, List.mem_map]
  constructor
  · rintro ⟨d, hd, he⟩
    have hread := congrArg Cascade.declaration? he
    rw [Cascade.declaration?_line (hcolon _ (hds d hd)), Cascade.declaration?_line (hcolon _ hp)] at hread
    exact Option.some_inj.1 hread ▸ hd
  · exact fun hd => ⟨_, hd, rfl⟩

/-- A class with a literal is split in front of the literal, and has one rule with a declaration of the literal
exactly when its family does not overlook it. -/
theorem literal_declared_iff (theme : Theme) (presets : Table String String) {words : List String}
    (h : (name, family) ∈ standard.entries) (hvalue : family.TakesValue)
    (hwords : ∀ p ∈ words, standardWords.Known p) (hne : literal ≠ "") (hline : '\n' ∉ literal.toList)
    (hpreset : name ++ "-" ++ bracketed literal ∉ presets.keys) :
    standard.split? (name ++ "-" ++ bracketed literal) = some (name, bracketed literal) ∧
      ((∃ rule, (Resolver.standard theme presets).resolve [] (prefixed words (name ++ "-" ++ bracketed literal)) =
          .ok [rule] ∧ ∃ property ∈ family.properties,
            property ++ ": " ++ family.around (literalValue literal) ++ ";" ∈ rule.lines) ↔
        ¬ family.Overlooks theme literal) := by
  have hbelongs := belongs_bracketed h literal hpreset
  have hproperties := (regular_of_registered h).properties
  obtain ⟨o, ho, hdeclares⟩ := Family.resolve_literal (.ofTheme theme) family hvalue hproperties hne hline
  refine ⟨hbelongs.split, Iff.trans ?_ hdeclares⟩
  have hsets : Family.Sets family.properties o := Family.sets_resolve _ _ family false o ho
  rw [hbelongs.resolve_prefixed hwords theme, ho]
  cases o with
  | none =>
    refine iff_of_false ?_ nofun
    rintro ⟨rule, hr, _⟩
    cases hr
  | some s =>
    have hlines {property : String} (hp : property ∈ family.properties) :=
      mem_linesOf_iff h (hsets s rfl) hp (family.around (literalValue literal))
    constructor
    · rintro ⟨_, ⟨⟩, property, hp, hm⟩
      exact ⟨s, rfl, property, hp, (hlines hp).1 hm⟩
    · rintro ⟨_, ⟨⟩, property, hp, hm⟩
      exact ⟨_, rfl, property, hp, (hlines hp).2 hm⟩

theorem literal_declared_iff_rounded :
    prefixed ["sm", "dark", "hover"] ("rounded" ++ "-" ++ bracketed "a-b:hover:[c]/d_e") =
        "sm:dark:hover:rounded-[a-b:hover:[c]/d_e]" ∧
      standard.split? "rounded-[a-b:hover:[c]/d_e]" = some ("rounded", "[a-b:hover:[c]/d_e]") ∧
      ∃ rule, (Resolver.standard .standard .empty).resolve [] "sm:dark:hover:rounded-[a-b:hover:[c]/d_e]" =
        .ok [rule] ∧ "border-radius: a-b:hover:[c]/d e;" ∈ rule.lines := by
  have hwords : ∀ p ∈ ["sm", "dark", "hover"], standardWords.Known p := by decide +kernel
  have hregistered : ("rounded", .radius ["border-radius"]) ∈ standard.entries := mem_standard (by simp [families])
  have hne : "a-b:hover:[c]/d_e" ≠ "" := by decide
  obtain ⟨hsplit, hdeclared⟩ :=
    literal_declared_iff .standard .empty hregistered trivial hwords hne (by decide) nofun
  obtain ⟨rule, hrule, property, hp, hm⟩ := hdeclared.2 nofun
  obtain rfl : property = "border-radius" := List.mem_singleton.1 hp
  have hline : "border-radius" ++ ": " ++ Family.around (literalValue "a-b:hover:[c]/d_e") (.radius ["border-radius"]) ++
      ";" = "border-radius: a-b:hover:[c]/d e;" := by decide
  exact ⟨by decide, hsplit, rule, hrule, hline ▸ hm⟩

def sizedTheme : Theme :=
  { Theme.empty with fontSize := .ofList [("[#fff]", "9px")] }

theorem literals_overlooked : (("col-span", .columnSpan) ∈ standard.entries ∧ Family.columnSpan.TakesValue) ∧
    (Resolver.standard .standard .empty).resolve [] "col-span-[2]" = .ok [] ∧
    (Resolver.standard sizedTheme .empty).resolve [] "text-[#fff]" =
      .ok [⟨["font-size: 9px;"], ⟨none, none, none, none⟩⟩] := by
  have hregistered : ("col-span", .columnSpan) ∈ standard.entries := mem_standard (by simp [families])
  have hspan : Belongs .empty "col-span-[2]" "col-span" "[2]" .columnSpan :=
    belongs_bracketed hregistered "2" nofun
  have htext : ("text", .text) ∈ standard.entries := mem_standard (by simp [families])
  have hsized : Belongs .empty "text-[#fff]" "text" "[#fff]" .text :=
    belongs_bracketed htext "#fff" nofun
  refine ⟨⟨hregistered, trivial⟩, ?_, ?_⟩
  · refine (hspan.resolve_prefixed (List.forall_mem_nil _) .standard).trans ?_
    decide +kernel
  · refine (hsized.resolve_prefixed (List.forall_mem_nil _) sizedTheme).trans ?_
    decide +kernel

end UtilityCss.Registry
