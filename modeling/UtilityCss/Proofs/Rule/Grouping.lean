import Mathlib.Data.List.Pairwise
import UtilityCss.Proofs.Distinct
import UtilityCss.Proofs.Rule.Merging
import UtilityCss.Stylesheet.Text

namespace UtilityCss

namespace Rule

def firstOf (rs : List Rule) (c : Context) : Nat :=
  rs.findIdx fun r => r.context = c

/-- One rule for each context of a list, in the order of their first rules, with all lines of the context. -/
structure Grouped (rs gs : List Rule) : Prop where
  distinct : (gs.map Rule.context).Nodup
  complete : ∀ c, c ∈ gs.map Rule.context ↔ c ∈ rs.map Rule.context
  ordered : gs.Pairwise fun g h => firstOf rs g.context < firstOf rs h.context
  lines : ∀ g ∈ gs, g.lines = (rs.filter fun r => r.context = g.context).flatMap Rule.lines

variable {rs gs : List Rule}

theorem firstOf_lt_length {c : Context} (h : c ∈ contexts rs) : firstOf rs c < rs.length := by
  obtain ⟨r, hr, hc⟩ := mem_contexts.1 h
  exact List.findIdx_lt_length_of_exists ⟨r, hr, by simpa using hc⟩

theorem firstOf_concat {c : Context} (h : c ∈ contexts rs) (r : Rule) : firstOf (rs ++ [r]) c = firstOf rs c := by
  rw [firstOf, List.findIdx_append, if_pos (by exact firstOf_lt_length h), firstOf]

theorem firstOf_concat_fresh {r : Rule} (h : r.context ∉ contexts rs) :
    firstOf (rs ++ [r]) r.context = rs.length := by
  have hnot : ∀ s ∈ rs, ¬ decide (s.context = r.context) = true := by
    intro s hs he
    exact h (mem_contexts.2 ⟨s, hs, of_decide_eq_true he⟩)
  have hlength : rs.findIdx (fun s => s.context = r.context) = rs.length :=
    List.findIdx_eq_length.2 (by simpa using hnot)
  rw [firstOf, List.findIdx_append, hlength, if_neg (Nat.lt_irrefl _)]
  simp

theorem ordered_contexts (rs : List Rule) :
    (contexts rs).Pairwise fun c d => firstOf rs c < firstOf rs d := by
  induction rs using List.reverseRecOn with
  | nil => exact List.Pairwise.nil
  | append_singleton rs r ih =>
    have hkept : (contexts rs).Pairwise fun c d => firstOf (rs ++ [r]) c < firstOf (rs ++ [r]) d := by
      refine ih.imp_of_mem fun hc hd hlt => ?_
      rwa [firstOf_concat hc, firstOf_concat hd]
    rw [contexts_concat]
    split
    · exact hkept
    · rename_i hfresh
      refine List.pairwise_append.2 ⟨hkept, List.pairwise_singleton .., fun c hc d hd => ?_⟩
      rw [List.mem_singleton.1 hd, firstOf_concat hc, firstOf_concat_fresh hfresh]
      exact firstOf_lt_length hc

theorem map_context_merge (rs : List Rule) : (merge rs).map Rule.context = contexts rs := by
  rw [merge_eq, List.map_map]
  exact List.map_id' _

theorem grouped_merge (rs : List Rule) : Grouped rs (merge rs) where
  distinct := map_context_merge rs ▸ nodup_contexts rs
  complete c := by rw [map_context_merge, mem_contexts, List.mem_map]
  ordered := by
    rw [merge_eq, List.pairwise_map]
    exact ordered_contexts rs
  lines g hg := by
    rw [merge_eq] at hg
    obtain ⟨c, _, rfl⟩ := List.mem_map.1 hg
    rfl

theorem exists_merge_iff {P : Context → Prop} : (∃ r ∈ merge rs, P r.context) ↔ ∃ r ∈ rs, P r.context := by
  have hcomplete := (grouped_merge rs).complete
  constructor
  · rintro ⟨r, hr, hp⟩
    obtain ⟨s, hs, he⟩ := List.mem_map.1 ((hcomplete _).1 (List.mem_map_of_mem hr))
    exact ⟨s, hs, he ▸ hp⟩
  · rintro ⟨r, hr, hp⟩
    obtain ⟨s, hs, he⟩ := List.mem_map.1 ((hcomplete _).2 (List.mem_map_of_mem hr))
    exact ⟨s, hs, he ▸ hp⟩

theorem Grouped.eq_map (h : Grouped rs gs) : gs = (gs.map Rule.context).map fun c => ⟨linesIn rs c, c⟩ := by
  rw [List.map_map]
  conv_lhs => rw [← List.map_id gs]
  apply List.map_congr_left
  intro g hg
  have hlines : linesIn rs g.context = g.lines := (h.lines g hg).symm
  rw [id, Function.comp, hlines]

theorem Grouped.contexts_eq (h : Grouped rs gs) : gs.map Rule.context = contexts rs := by
  have hmem : ∀ c, c ∈ gs.map Rule.context ↔ c ∈ contexts rs := by
    intro c
    rw [h.complete, mem_contexts, List.mem_map]
  have hperm : (gs.map Rule.context).Perm (contexts rs) :=
    (List.perm_ext_iff_of_nodup h.distinct (nodup_contexts rs)).2 hmem
  -- both lists ascend by the first rules, so one order is left for their common members
  refine hperm.eq_of_pairwise ?_ (List.pairwise_map.2 h.ordered) (ordered_contexts rs)
  intro c d _ _ hlt hgt
  exact absurd hgt (Nat.lt_asymm hlt)

theorem eq_merge_iff : gs = merge rs ↔ Grouped rs gs := by
  constructor
  · rintro rfl
    exact grouped_merge rs
  · intro h
    rw [h.eq_map, h.contexts_eq, merge_eq]

theorem linesIn_append (rs ss : List Rule) (c : Context) : linesIn (rs ++ ss) c = linesIn rs c ++ linesIn ss c := by
  rw [linesIn, List.filter_append, List.flatMap_append, ← linesIn, ← linesIn]

theorem linesIn_merge (rs : List Rule) (c : Context) : linesIn (merge rs) c = linesIn rs c := by
  have hfilter : (merge rs).filter (fun r => r.context = c) =
      (List.replicate ((contexts rs).count c) c).map fun d => ⟨linesIn rs d, d⟩ := by
    rw [merge_eq, List.filter_map, ← List.filter_eq]
    rfl
  by_cases hc : c ∈ contexts rs
  · rw [linesIn, hfilter, List.count_eq_one_of_mem (nodup_contexts rs) hc]
    exact List.flatMap_singleton ..
  · have hempty : rs.filter (fun r => r.context = c) = [] := by
      rw [List.filter_eq_nil_iff]
      rintro r hr he
      exact hc (mem_contexts.2 ⟨r, hr, of_decide_eq_true he⟩)
    rw [linesIn, hfilter, List.count_eq_zero_of_not_mem hc, linesIn, hempty]
    rfl

theorem contexts_merge_append (rs ss : List Rule) : contexts (merge rs ++ merge ss) = contexts (rs ++ ss) := by
  rw [contexts, List.map_append, map_context_merge, map_context_merge, contexts, contexts,
    eraseDups_append_eraseDups, ← List.map_append, ← contexts]

theorem merge_append (rs ss : List Rule) : merge (rs ++ ss) = merge (merge rs ++ merge ss) := by
  have hlines : linesIn (merge rs ++ merge ss) = linesIn (rs ++ ss) := by
    funext c
    rw [linesIn_append, linesIn_merge, linesIn_merge, linesIn_append]
  rw [merge_eq, merge_eq (merge rs ++ merge ss), contexts_merge_append, hlines]

theorem merge_merge (rs : List Rule) : merge (merge rs) = merge rs := by
  have happend := merge_append rs []
  rwa [List.append_nil, show merge [] = [] from rfl, List.append_nil, eq_comm] at happend

end Rule

namespace Stylesheet

variable (breakpoints : Table String String) (rules : Table String (List Rule))

theorem placed_merge : placed breakpoints (rules.map Rule.merge) = placed breakpoints rules := by
  rw [placed, placed, Table.map, List.flatMap_map]
  simp only [Rule.merge_merge]

end Stylesheet

namespace Rule

/-- Merging gives the one list with a rule for each context among the rules, in the order of their first rules,
with all lines of the context in order. What has been merged before makes no difference, neither to merging nor
to the text of a stylesheet. -/
theorem merge_groups_by_context :
    (∀ rs gs : List Rule, gs = merge rs ↔ Grouped rs gs) ∧
      (∀ rs : List Rule, merge (merge rs) = merge rs) ∧
      (∀ rs ss : List Rule, merge (rs ++ ss) = merge (merge rs ++ merge ss)) ∧
      ∀ o breakpoints rules, Stylesheet.emit o breakpoints (rules.map merge) =
        Stylesheet.emit o breakpoints rules := by
  refine ⟨fun _ _ => eq_merge_iff, merge_merge, merge_append, fun o breakpoints rules => ?_⟩
  rw [Stylesheet.emit, Stylesheet.sections, Stylesheet.placed_merge, ← Stylesheet.sections, ← Stylesheet.emit]

end Rule

end UtilityCss
