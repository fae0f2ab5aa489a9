import UtilityCss.Rule
import UtilityCss.Utility.Registry

/-!
Resolving class tokens to rules. A preset becomes the rules of its classes; a name of the utility table
its declarations; any other name what the family of its first part makes of the rest. A token that means
nothing has no rules.
-/

namespace UtilityCss

structure Resolver where
  surroundings : Surroundings
  presets : Table String String
  utilities : Table String Entry
  registry : Registry
  breakpoints : Table String String

namespace Resolver

def build (theme : Theme) (presets : Table String String) (utilities : Table String Entry)
    (breakpoints : Table String String) : Except Fault Resolver :=
  (Registry.build utilities).map fun registry =>
    ⟨.ofTheme theme, presets, utilities, registry, breakpoints⟩

def standard (theme : Theme) (presets : Table String String) : Resolver :=
  ⟨.ofTheme theme, presets, Entry.standard, Registry.standard, Vocabulary.breakpoints⟩

variable (r : Resolver)

def parse (token : String) : Token :=
  Token.parse (.ofBreakpoints r.breakpoints) token

def presetClasses? (base : String) : Option (List String) :=
  match r.presets.get? base with
  | some classes => some (Text.wordsOf classes)
  | none => (r.utilities.get? base).bind Entry.presetClasses?

def names : List String :=
  r.presets.keys ++ r.utilities.keys

def unseen (seen : List String) : List String :=
  r.names.filter fun n => !seen.contains n

theorem mem_names_of_presetClasses? {base : String} {classes : List String}
    (h : r.presetClasses? base = some classes) : base ∈ r.names := by
  unfold presetClasses? at h
  split at h
  · rename_i hp
    exact List.mem_append_left _ ((r.presets.contains_iff base).1 (by simp [Table.contains, hp]))
  · cases hu : r.utilities.get? base with
    | none => simp [hu] at h
    | some e =>
      exact List.mem_append_right _ ((r.utilities.contains_iff base).1 (by simp [Table.contains, hu]))

theorem unseen_cons_lt {base : String} {seen : List String} (hn : base ∈ r.names)
    (hs : seen.contains base = false) :
    (r.unseen (base :: seen)).length < (r.unseen seen).length := by
  have h : r.unseen (base :: seen) = (r.unseen seen).filter fun n => !(n == base) := by
    simp only [unseen, List.filter_filter]
    congr 1
    funext n
    by_cases hb : n = base <;> simp [hb]
  rw [h]
  exact List.length_filter_lt_length_iff_exists.2
    ⟨base, by simpa [unseen, hn] using hs, by simp⟩

def fixedRules (token : Token) (d : Declaration) : Except Fault (List Rule) :=
  d.pairs.map fun pairs =>
    let pairs := if token.negated then pairs.map fun p => (p.1, Value.negate p.2) else pairs
    let variants := if token.variant.isNone && !d.variants.isEmpty then d.variants.map some
      else [token.variant]
    variants.map fun v => ⟨Rule.linesOf pairs, ⟨token.breakpoint, token.mode, v, none⟩⟩

def familyRule (token : Token) (s : Resolution) : Rule :=
  let ds := if token.negated && s.negatable then s.declarations.map fun d => (d.1, Value.negate d.2)
    else s.declarations
  ⟨Rule.linesOf ds, ⟨token.breakpoint, token.mode, token.variant, s.selector⟩⟩

def familyRules (token : Token) : Except Fault (List Rule) :=
  match r.registry.split? token.base with
  | none => .ok []
  | some (name, key) =>
    match r.registry.get? name with
    | none => .ok []
    | some family =>
      (family.resolve r.surroundings key token.negated).map fun s =>
        (s.map (familyRule token)).toList

def ownRules (token : Token) : Except Fault (List Rule) :=
  match r.utilities.get? token.base with
  | some (.declaration d) => fixedRules token d
  | _ => r.familyRules token

/-- The rules of a token, when the presets in `seen` are being expanded around it. -/
def resolve (seen : List String) (token : String) : Except Fault (List Rule) :=
  let t := r.parse token
  if t.base.isEmpty then .ok []
  else
    match _h : r.presetClasses? t.base with
    | none => r.ownRules t
    | some classes =>
      if _hs : seen.contains t.base then r.ownRules t
      else (classes.mapM fun c => resolve (t.base :: seen) c).map fun rules =>
        rules.flatten.map (Rule.inherit t)
termination_by (r.unseen seen).length
decreasing_by
  exact r.unseen_cons_lt (r.mem_names_of_presetClasses? _h) (by simpa using _hs)

def sorted (xs : List String) : List String :=
  xs.eraseDups.mergeSort fun a b => !decide (b < a)

def resolveAll (tokens : List String) : Except Fault (Table String (List Rule)) :=
  (sorted tokens).foldlM (fun t token =>
    (r.resolve [] token).map fun rules => if rules.isEmpty then t else t.insert token rules) .empty

end Resolver

end UtilityCss
