import UtilityCss.Proofs.Outcome
import UtilityCss.Resolver

namespace UtilityCss.Resolver

variable (r : Resolver)

def words : Words :=
  .ofBreakpoints r.breakpoints

def baseOf (token : String) : String :=
  (r.parse token).base

theorem base_isEmpty_iff (token : String) :
    (r.parse token).base.isEmpty = true ↔ r.baseOf token = "" :=
  String.isEmpty_iff

/-- A token is replaced by the classes of a preset while the presets in `seen` are under way. -/
structure Expands (seen : List String) (token : String) (classes : List String) : Prop where
  named : r.baseOf token ≠ ""
  fresh : r.baseOf token ∉ seen
  preset : r.presetClasses? (r.baseOf token) = some classes

def plainRules (token : String) : Except Fault (List Rule) :=
  if r.baseOf token = "" then .ok [] else r.ownRules (r.parse token)

def gathered (token : String) (rules : List (List Rule)) : List Rule :=
  rules.flatten.map (Rule.inherit (r.parse token))

theorem resolve_of_expands {seen classes : List String} {token : String}
    (h : r.Expands seen token classes) :
    r.resolve seen token =
      (classes.mapM (r.resolve (r.baseOf token :: seen))).map (r.gathered token) := by
  have hn : ¬ (r.parse token).base.isEmpty = true := fun he => h.named ((r.base_isEmpty_iff token).1 he)
  have hs : ¬ seen.contains (r.parse token).base = true := by
    rw [List.contains_iff_mem]
    exact h.fresh
  have hp : r.presetClasses? (r.parse token).base = some classes := h.preset
  rw [resolve.eq_def]
  dsimp only
  rw [if_neg hn]
  split
  · rename_i hnone
    rw [hp] at hnone
    cases hnone
  · rename_i others hsome
    rw [hp] at hsome
    cases hsome
    rw [dif_neg hs]
    rfl

theorem resolve_of_plain {seen : List String} {token : String}
    (h : ∀ classes, ¬ r.Expands seen token classes) : r.resolve seen token = r.plainRules token := by
  rw [resolve.eq_def, plainRules]
  dsimp only
  by_cases hn : r.baseOf token = ""
  · rw [if_pos hn, if_pos ((r.base_isEmpty_iff token).2 hn)]
  · rw [if_neg fun he => hn ((r.base_isEmpty_iff token).1 he), if_neg hn]
    split
    · rfl
    · rename_i classes hp
      have hs : seen.contains (r.parse token).base = true := by
        by_contra hc
        rw [List.contains_iff_mem] at hc
        exact h classes ⟨hn, hc, hp⟩
      rw [dif_pos hs]

theorem resolve_empty : r.resolve [] "" = .ok [] := by
  have hpieces : Text.pieces ':' "" = [""] := by decide
  have hsign : Token.splitSign "" = (false, "") := by decide
  have hbase : r.baseOf "" = "" := by simp [baseOf, parse, Token.parse, hsign, hpieces, Token.readWords]
  rw [r.resolve_of_plain fun classes h => h.named hbase, plainRules, if_pos hbase]

theorem resolve_of_not_preset {seen : List String} {token : String}
    (h : r.presetClasses? (r.baseOf token) = none) : r.resolve seen token = r.plainRules token := by
  apply r.resolve_of_plain
  intro classes he
  rw [he.preset] at h
  cases h

theorem unseen_lt_of_expands {seen classes : List String} {token : String}
    (h : r.Expands seen token classes) :
    (r.unseen (r.baseOf token :: seen)).length < (r.unseen seen).length := by
  apply r.unseen_cons_lt (r.mem_names_of_presetClasses? h.preset)
  simpa using h.fresh

theorem resolve_induction {motive : List String → String → Prop}
    (plain : ∀ seen token, (∀ classes, ¬ r.Expands seen token classes) → motive seen token)
    (preset : ∀ seen token classes, r.Expands seen token classes →
      (∀ c ∈ classes, motive (r.baseOf token :: seen) c) → motive seen token)
    (seen : List String) (token : String) : motive seen token := by
  by_cases h : ∃ classes, r.Expands seen token classes
  · obtain ⟨classes, hc⟩ := h
    apply preset seen token classes hc
    intro c _
    exact resolve_induction plain preset (r.baseOf token :: seen) c
  · exact plain seen token fun classes hc => h ⟨classes, hc⟩
termination_by (r.unseen seen).length
decreasing_by exact r.unseen_lt_of_expands hc

inductive Reaches : String → String → Prop
  | base (token : String) : Reaches token (r.baseOf token)
  | inside {token c name : String} {classes : List String} (hn : r.baseOf token ≠ "")
      (hp : r.presetClasses? (r.baseOf token) = some classes) (hc : c ∈ classes)
      (h : Reaches c name) : Reaches token name

def Ranked (rank : String → Nat) (tokens : List String) : Prop :=
  ∀ t ∈ tokens, ∀ c ∈ (r.presetClasses? (r.baseOf t)).getD [],
    c ∈ tokens ∧ rank (r.baseOf c) < rank (r.baseOf t)

instance (rank : String → Nat) (tokens : List String) : Decidable (r.Ranked rank tokens) :=
  inferInstanceAs (Decidable (∀ t ∈ tokens, ∀ c ∈ (r.presetClasses? (r.baseOf t)).getD [],
    c ∈ tokens ∧ rank (r.baseOf c) < rank (r.baseOf t)))

theorem Reaches.rank_le {rank : String → Nat} {tokens : List String} (hr : r.Ranked rank tokens)
    {token name : String} (h : r.Reaches token name) (hm : token ∈ tokens) :
    rank name ≤ rank (r.baseOf token) := by
  induction h with
  | base token => exact Nat.le_refl _
  | @inside token c name classes hn hp hc h ih =>
    have hclass : c ∈ (r.presetClasses? (r.baseOf token)).getD [] := by
      rw [hp]
      exact hc
    obtain ⟨hmem, hlt⟩ := hr token hm c hclass
    have hle := ih hmem
    omega

theorem resolve_congr_seen (seen : List String) (token : String) :
    ∀ others : List String, (∀ name, r.Reaches token name → (name ∈ seen ↔ name ∈ others)) →
      r.resolve seen token = r.resolve others token := by
  induction seen, token using r.resolve_induction with
  | plain seen token h =>
    intro others he
    rw [r.resolve_of_plain h, r.resolve_of_plain]
    rintro classes ⟨hn, hf, hp⟩
    exact h classes ⟨hn, fun hs => hf ((he _ (.base token)).1 hs), hp⟩
  | preset seen token classes h ih =>
    intro others he
    have ho : r.Expands others token classes :=
      ⟨h.named, fun hs => h.fresh ((he _ (.base token)).2 hs), h.preset⟩
    rw [r.resolve_of_expands h, r.resolve_of_expands ho]
    congr 1
    apply Outcome.mapM_congr
    intro c hc
    apply ih c hc
    intro name hr
    have hi := he name (.inside h.named h.preset hc hr)
    simp only [List.mem_cons, hi]

end UtilityCss.Resolver
