import UtilityCss.Proofs.Expansion.Collection
import UtilityCss.Proofs.Expansion.Distribution
import UtilityCss.Proofs.Text.Pieces
import UtilityCss.Proofs.Utility.Dispatch

namespace UtilityCss

open Text Token

namespace Registry

theorem mem_standard {name : String} {family : Family} (h : (name, family) ∈ families) :
    (name, family) ∈ standard.entries := by
  rw [standard_eq_listed]
  exact List.mem_append_left _ h

variable {r : Registry} {name : String}

abbrev standardWords : Words :=
  .ofBreakpoints Vocabulary.breakpoints

def contextBehind (words : List String) (selector : Option String) : Context :=
  let setting := settingOf standardWords words
  ⟨setting.breakpoint, setting.mode, setting.variant, selector⟩

theorem prefixes_standard {words : List String} (h : ∀ p ∈ words, standardWords.Known p) :
    Prefixes standardWords words where
  known := h
  colonFree p hp := (Resolver.known_standard .empty .empty (h p hp)).2.1
  unsigned _ hp := (Resolver.known_standard .empty .empty hp).2.2

structure Belongs (presets : Table String String) (base name key : String) (family : Family) : Prop where
  split : Registry.standard.split? base = some (name, key)
  registered : (name, family) ∈ Registry.standard.entries
  unpreset : base ∉ presets.keys
  unlisted : base ∉ Entry.standard.keys
  noWord : ∀ first ∈ (pieces ':' base).head?, ¬ standardWords.Known first
  unsigned : Unsigned base

variable {presets : Table String String} {base key : String} {family : Family}

theorem Belongs.read_eq (h : Belongs presets base name key family) :
    Token.read standardWords base = (.none, pieces ':' base) := by
  obtain ⟨first, rest, hb⟩ := List.exists_cons_of_ne_nil (pieces_ne_nil ':' base)
  rw [Token.read, hb]
  exact readWords_of_not_known _ (h.noWord first (by rw [hb]; rfl)) .none rest

theorem Belongs.parse_prefixed (h : Belongs presets base name key family) {words : List String}
    (hw : ∀ p ∈ words, standardWords.Known p) :
    parse standardWords (prefixed words base) =
      ⟨prefixed words base, base, false, (settingOf standardWords words).breakpoint,
        (settingOf standardWords words).variant, (settingOf standardWords words).mode⟩ := by
  have hnamed : named standardWords base = (false, base) := by
    rw [named, h.read_eq, intercalate_pieces rfl, splitSign_of_unsigned h.unsigned]
  have hparse : parse standardWords base = ⟨base, base, false, none, none, none⟩ := by
    rw [Token.parse_eq, splitSign_of_unsigned h.unsigned, hnamed, h.read_eq]
    rfl
  have hsign : SignAtBase standardWords base := fun hn => absurd h.unsigned hn
  rw [Token.parse_prefixed (prefixes_standard hw) hsign, hparse]
  rfl

theorem Belongs.resolve_prefixed (h : Belongs presets base name key family) {words : List String}
    (hw : ∀ p ∈ words, standardWords.Known p) (theme : Theme) :
    (Resolver.standard theme presets).resolve [] (prefixed words base) =
      (family.resolve (.ofTheme theme) key false).map fun s =>
        (s.map fun s => ⟨Rule.linesOf s.declarations, contextBehind words s.selector⟩).toList := by
  let r := Resolver.standard theme presets
  let token := prefixed words base
  have hparse : r.parse token = _ := h.parse_prefixed hw
  have hbase : r.baseOf token = base := by rw [Resolver.baseOf, hparse]
  have hunlisted : r.utilities.get? base = none := by
    rw [← Option.not_isSome_iff_eq_none]
    exact fun hs => h.unlisted ((Entry.standard.contains_iff base).1 hs)
  have hunpreset : r.presets.get? base = none := by
    rw [← Option.not_isSome_iff_eq_none]
    exact fun hs => h.unpreset ((presets.contains_iff base).1 hs)
  have hpreset : r.presetClasses? (r.baseOf token) = none := by
    rw [hbase, Resolver.presetClasses?, hunpreset, hunlisted]
    rfl
  have hnonempty : base ≠ "" := by
    rintro rfl
    have hsplit := h.split
    have hnone : Registry.standard.split? "" = none := by
      rw [Registry.standard_eq_listed]
      decide +kernel
    rw [hnone] at hsplit
    cases hsplit
  have hfamily : r.registry.get? name = some family :=
    (Table.get?_eq_some_iff Registry.standard _ _).2 h.registered
  have hsplit : r.registry.split? base = some (name, key) := h.split
  rw [r.resolve_of_not_preset hpreset, Resolver.plainRules, hbase, if_neg hnonempty, hparse, Resolver.ownRules]
  dsimp only
  rw [hunlisted]
  dsimp only
  rw [Resolver.familyRules]
  dsimp only
  rw [hsplit]
  dsimp only
  rw [hfamily]
  rfl

structure Leads (name : String) (family : Family) : Prop where
  registered : (name, family) ∈ Registry.standard.entries
  longest : ∀ other ∈ Registry.standard.keys, ¬ (name ++ "-").toList <+: other.toList
  unlisted : ∀ other ∈ Entry.standard.keys, ¬ (name ++ "-").toList <+: other.toList
  noWord : ∀ p ∈ Vocabulary.breakpoints.keys ++ Vocabulary.modes ++ Vocabulary.variants.keys,
    ¬ (name ++ "-").toList <+: p.toList
  colonFree : ':' ∉ name.toList
  unsigned : ∃ c ∈ name.toList.head?, c ≠ '-'

theorem Leads.unsigned_append (h : Leads name family) (s : String) : Unsigned (name ++ s) := by
  obtain ⟨c, hc, hne⟩ := h.unsigned
  rw [Unsigned, String.toList_append, List.head?_append, Option.mem_def.1 hc]
  simpa using hne

theorem Leads.belongs (h : Leads name family) (key : String) :
    Belongs .empty (name ++ "-" ++ key) name key family where
  split := split?_eq_some_iff.2 ⟨List.mem_map_of_mem h.registered, .inr rfl, fun other ho hother =>
    Nat.le_of_not_lt fun hlt => h.longest other ho (hother.starts_of_longer hlt)⟩
  registered := h.registered
  unpreset := nofun
  unlisted hm := h.unlisted _ hm (starts_append _ _)
  noWord first hf hknown := by
    have hcolon : ':' ∉ (name ++ "-").toList := by
      simpa using h.colonFree
    rw [pieces_append hcolon, List.head?_modifyHead] at hf
    obtain ⟨back, _, rfl⟩ := Option.map_eq_some_iff.1 hf
    exact h.noWord _ (Resolver.mem_of_known_standard .empty .empty hknown) (starts_append (name ++ "-") back)
  unsigned := by
    rw [String.append_assoc]
    exact h.unsigned_append _

theorem Leads.resolve_prefixed (h : Leads name family) {words : List String}
    (hw : ∀ p ∈ words, standardWords.Known p) (theme : Theme) (key : String) :
    (Resolver.standard theme .empty).resolve [] (prefixed words (name ++ "-" ++ key)) =
      (family.resolve (.ofTheme theme) key false).map fun s =>
        (s.map fun s => ⟨Rule.linesOf s.declarations, contextBehind words s.selector⟩).toList :=
  (h.belongs key).resolve_prefixed hw theme

end Registry

end UtilityCss
