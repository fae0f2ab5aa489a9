import Mathlib.Data.List.Induction
import UtilityCss.Proofs.Distinct
import UtilityCss.Proofs.Table
import UtilityCss.Rule

namespace UtilityCss

theorem Table.entries_eq_map_keys {κ α : Type} [DecidableEq κ] (t : Table κ α) (fallback : α) :
    t.entries = t.keys.map fun k => (k, (t.get? k).getD fallback) := by
  rw [keys, List.map_map]
  have hid : t.entries.map id = t.entries.map fun e => (e.1, (t.get? e.1).getD fallback) := by
    apply List.map_congr_left
    intro e he
    have hg : t.get? e.1 = some e.2 := (t.get?_eq_some_iff e.1 e.2).2 he
    simp [hg]
  rwa [List.map_id] at hid

namespace Rule

def contexts (rs : List Rule) : List Context :=
  (rs.map Rule.context).eraseDups

def linesIn (rs : List Rule) (c : Context) : List String :=
  (rs.filter fun r => r.context = c).flatMap Rule.lines

theorem mem_contexts {rs : List Rule} {c : Context} : c ∈ contexts rs ↔ ∃ r ∈ rs, r.context = c := by
  rw [contexts, List.mem_eraseDups, List.mem_map]

theorem contexts_concat (rs : List Rule) (r : Rule) :
    contexts (rs ++ [r]) =
      if r.context ∈ contexts rs then contexts rs else contexts rs ++ [r.context] := by
  have hmem : r.context ∈ contexts rs ↔ r.context ∈ rs.map Rule.context := List.mem_eraseDups
  rw [contexts, List.map_append, List.map_singleton, eraseDups_concat, ← contexts]
  simp only [hmem]

theorem linesIn_concat (rs : List Rule) (r : Rule) (c : Context) :
    linesIn (rs ++ [r]) c = linesIn rs c ++ if r.context = c then r.lines else [] := by
  rw [linesIn, List.filter_append, List.flatMap_append, ← linesIn, List.filter_singleton]
  split <;> simp_all

theorem keys_gathered (rs : List Rule) : (rs.foldl gather .empty).keys = contexts rs := by
  induction rs using List.reverseRecOn with
  | nil => rfl
  | append_singleton rs r ih =>
    rw [List.foldl_concat, gather, Table.keys_insert, ih, contexts_concat]

theorem get?_gathered (rs : List Rule) (c : Context) :
    ((rs.foldl gather .empty).get? c).getD [] = linesIn rs c := by
  induction rs using List.reverseRecOn with
  | nil => rfl
  | append_singleton rs r ih =>
    rw [List.foldl_concat, gather, Table.get?_insert, linesIn_concat]
    by_cases h : r.context = c
    · subst h
      simp [ih]
    · simp [h, ih]

theorem nodup_contexts (rs : List Rule) : (contexts rs).Nodup := by
  rw [← keys_gathered]
  exact (rs.foldl gather .empty).distinct

theorem merge_eq (rs : List Rule) :
    merge rs = (contexts rs).map fun c => ⟨linesIn rs c, c⟩ := by
  rw [merge, Table.entries_eq_map_keys _ [], keys_gathered, List.map_map]
  apply List.map_congr_left
  intro c _
  simp only [Function.comp, get?_gathered]

end Rule

end UtilityCss
