import Mathlib.Data.List.Basic
import UtilityCss.Pattern.Braces

namespace UtilityCss.Pattern

def Braceless (cs : List Char) : Prop :=
  '\x7b' ∉ cs ∧ '\x7d' ∉ cs

instance (cs : List Char) : Decidable (Braceless cs) :=
  inferInstanceAs (Decidable (_ ∧ _))

def Unpaired (cs : List Char) : Prop :=
  ∃ front back, cs = front ++ back ∧ '\x7b' ∉ front ∧ '\x7d' ∉ back

variable {a b i cs : List Char}

theorem Braceless.append (ha : Braceless a) (hb : Braceless b) : Braceless (a ++ b) := by
  simp only [Braceless, List.mem_append, not_or] at ha hb ⊢
  exact ⟨⟨ha.1, hb.1⟩, ha.2, hb.2⟩

theorem Unpaired.of_not_close (h : '\x7d' ∉ a) : Unpaired a :=
  ⟨[], a, rfl, List.not_mem_nil, h⟩

theorem Unpaired.append (ha : Unpaired a) (hb : '\x7d' ∉ b) : Unpaired (a ++ b) := by
  obtain ⟨front, back, rfl, hf, hback⟩ := ha
  refine ⟨front, back ++ b, List.append_assoc .., hf, ?_⟩
  rw [List.mem_append, not_or]
  exact ⟨hback, hb⟩

theorem Unpaired.left (h : Unpaired (a ++ b)) : Unpaired a := by
  obtain ⟨front, back, he, hf, hback⟩ := h
  rcases List.append_eq_append_iff.1 he with ⟨c, rfl, rfl⟩ | ⟨c, rfl, rfl⟩
  · refine ⟨a, [], (List.append_nil a).symm, ?_, List.not_mem_nil⟩
    exact fun hm => hf (List.mem_append_left c hm)
  · refine ⟨front, c, rfl, hf, ?_⟩
    exact fun hm => hback (List.mem_append_left b hm)

theorem Unpaired.right (h : Unpaired (a ++ b)) : Unpaired b := by
  obtain ⟨front, back, he, hf, hback⟩ := h
  rcases List.append_eq_append_iff.1 he with ⟨c, rfl, rfl⟩ | ⟨c, rfl, rfl⟩
  · exact ⟨c, back, rfl, fun hm => hf (List.mem_append_right a hm), hback⟩
  · exact ⟨[], b, rfl, List.not_mem_nil, fun hm => hback (List.mem_append_right c hm)⟩

theorem Unpaired.not_open (h : Unpaired (a ++ b)) (hb : '\x7d' ∈ b) : '\x7b' ∉ a := by
  obtain ⟨front, back, he, hf, hback⟩ := h
  rcases List.append_eq_append_iff.1 he with ⟨c, rfl, rfl⟩ | ⟨c, rfl, rfl⟩
  · exact fun hm => hf (List.mem_append_left c hm)
  · exact absurd (List.mem_append_right c hb) hback

theorem Unpaired.insert (h : Unpaired (a ++ b)) (hi : Braceless i) : Unpaired (a ++ i ++ b) := by
  obtain ⟨front, back, he, hf, hback⟩ := h
  rcases List.append_eq_append_iff.1 he with ⟨c, rfl, rfl⟩ | ⟨c, rfl, rfl⟩
  · refine ⟨a ++ i ++ c, back, by simp, ?_, hback⟩
    simp only [List.mem_append, not_or] at hf ⊢
    exact ⟨⟨hf.1, hi.1⟩, hf.2⟩
  · refine ⟨front, c ++ i ++ b, by simp, hf, ?_⟩
    simp only [List.mem_append, not_or] at hback ⊢
    exact ⟨⟨hback.1, hi.2⟩, hback.2⟩

theorem findGroup_braceless (hi : Braceless i) (head run b : List Char) :
    findGroup head (some run) (i ++ '\x7d' :: b) = some (head.reverse, run.reverse ++ i, b) := by
  induction i generalizing run with
  | nil => simp [findGroup]
  | cons c i ih =>
    simp only [Braceless, List.mem_cons, not_or] at hi
    obtain ⟨⟨ho, hio⟩, hc, hic⟩ := hi
    rw [List.cons_append, findGroup, if_neg (Ne.symm hc), if_neg (Ne.symm ho), ih ⟨hio, hic⟩]
    simp

theorem findGroup_behind (ha : '\x7d' ∉ a) (hi : Braceless i) (head run b : List Char) :
    findGroup head (some run) (a ++ '\x7b' :: i ++ '\x7d' :: b) =
      some (head.reverse ++ '\x7b' :: run.reverse ++ a, i, b) := by
  induction a generalizing head run with
  | nil =>
    rw [List.nil_append, List.cons_append, findGroup, if_neg (by decide), if_pos rfl, findGroup_braceless hi]
    simp
  | cons c a ih =>
    rw [List.mem_cons, not_or] at ha
    rw [List.cons_append, List.cons_append, findGroup, if_neg (Ne.symm ha.1)]
    by_cases ho : c = '\x7b'
    · rw [if_pos ho, ih ha.2, ho]
      simp
    · rw [if_neg ho, ih ha.2]
      simp

theorem findGroup_open (ha : '\x7d' ∉ a) (hi : Braceless i) (head b : List Char) :
    findGroup head none (a ++ '\x7b' :: i ++ '\x7d' :: b) = some (head.reverse ++ a, i, b) := by
  induction a generalizing head with
  | nil =>
    rw [List.nil_append, List.cons_append, findGroup, if_pos rfl, findGroup_braceless hi]
    simp
  | cons c a ih =>
    rw [List.mem_cons, not_or] at ha
    rw [List.cons_append, List.cons_append, findGroup]
    by_cases ho : c = '\x7b'
    · rw [if_pos ho, findGroup_behind ha.2 hi, ho]
      simp
    · rw [if_neg ho, ih ha.2]
      simp

theorem findGroup_skip {front : List Char} (h : '\x7b' ∉ front) (head cs : List Char) :
    findGroup head none (front ++ cs) = findGroup (front.reverse ++ head) none cs := by
  induction front generalizing head with
  | nil => rfl
  | cons c front ih =>
    rw [List.mem_cons, not_or] at h
    rw [List.cons_append, findGroup, if_neg (Ne.symm h.1), ih h.2]
    simp

theorem group?_of_unpaired (ha : Unpaired a) (hi : Braceless i) (b : List Char) :
    group? (a ++ '\x7b' :: i ++ '\x7d' :: b) = some (a, i, b) := by
  obtain ⟨front, back, rfl, hf, hback⟩ := ha
  rw [group?, List.append_assoc front, List.append_assoc front, findGroup_skip hf, findGroup_open hback hi]
  simp

theorem findGroup_ne_none (hi : Braceless i) (a b head : List Char) (inside : Option (List Char)) :
    findGroup head inside (a ++ '\x7b' :: i ++ '\x7d' :: b) ≠ none := by
  induction a generalizing head inside with
  | nil =>
    cases inside with
    | none =>
      rw [findGroup_open List.not_mem_nil hi]
      exact Option.some_ne_none _
    | some run =>
      rw [findGroup_behind List.not_mem_nil hi]
      exact Option.some_ne_none _
  | cons c a ih =>
    rw [List.cons_append, List.cons_append]
    cases inside with
    | none =>
      rw [findGroup]
      split
      · apply ih
      · apply ih
    | some run =>
      rw [findGroup]
      split
      · exact Option.some_ne_none _
      · split
        · apply ih
        · apply ih

theorem ne_group_of_none (h : group? cs = none) (hi : Braceless i) (a b : List Char) :
    cs ≠ a ++ '\x7b' :: i ++ '\x7d' :: b := by
  rintro rfl
  exact findGroup_ne_none hi a b [] none h

theorem braceless_of_findGroup {cs head : List Char} {inside : Option (List Char)}
    (hin : ∀ run ∈ inside, Braceless run) (h : findGroup head inside cs = some (a, i, b)) : Braceless i := by
  induction cs generalizing head inside with
  | nil => cases h
  | cons c r ih =>
    cases inside with
    | none =>
      rw [findGroup] at h
      split at h
      · exact ih (by simp [Braceless]) h
      · exact ih (by simp) h
    | some run =>
      have hrun : Braceless run := hin run rfl
      rw [findGroup] at h
      split at h
      · cases h
        simpa [Braceless] using hrun
      · rename_i hc
        split at h
        · exact ih (by simp [Braceless]) h
        · rename_i ho
          refine ih ?_ h
          rintro _ ⟨⟩
          simpa [Braceless, Ne.symm hc, Ne.symm ho] using hrun

theorem braceless_of_group? (h : group? cs = some (a, i, b)) : Braceless i :=
  braceless_of_findGroup (by simp) h

theorem expand_of_none (h : group? cs = none) : expand cs = [cs] := by
  rw [expand]
  split
  · rfl
  · rename_i hs
    rw [h] at hs
    cases hs

theorem expand_of_group (h : group? cs = some (a, i, b)) :
    expand cs = (i.splitOn ',').flatMap fun w => expand (a ++ w ++ b) := by
  rw [expand]
  split
  · rename_i hs
    rw [h] at hs
    cases hs
  · rename_i hs
    rw [h] at hs
    cases hs
    simp

theorem group?_eq_none_of_unpaired (h : Unpaired a) : group? a = none := by
  rw [Option.eq_none_iff_forall_ne_some]
  rintro ⟨x, i, y⟩ hg
  obtain ⟨front, back, he, hf, hback⟩ := h
  rw [group?_eq hg] at he
  rcases List.append_eq_append_iff.1 he with ⟨c, rfl, -⟩ | ⟨c, -, rfl⟩
  · exact hf (by simp)
  · exact hback (by simp)

theorem subset_of_mem_splitOn {sep : Char} {cs w : List Char} (h : w ∈ cs.splitOn sep) : w ⊆ cs := by
  induction cs generalizing w with
  | nil => simp_all [List.splitOn]
  | cons c r ih =>
    rw [List.splitOn_cons_eq_if_modifyHead] at h
    split at h
    · rcases List.mem_cons.1 h with rfl | h
      · exact List.nil_subset _
      · exact List.Subset.trans (ih h) (List.subset_cons_self c r)
    · obtain ⟨first, rest, hs⟩ := List.exists_cons_of_ne_nil (List.splitOn_ne_nil sep r)
      rw [hs] at ih h
      rw [List.modifyHead_cons, List.mem_cons] at h
      rcases h with rfl | h
      · exact List.cons_subset_cons c (ih (List.mem_cons_self ..))
      · exact List.Subset.trans (ih (List.mem_cons_of_mem _ h)) (List.subset_cons_self c r)

theorem Braceless.of_mem_splitOn {w : List Char} (h : Braceless i) (hw : w ∈ i.splitOn ',') : Braceless w :=
  ⟨fun hm => h.1 (subset_of_mem_splitOn hw hm), fun hm => h.2 (subset_of_mem_splitOn hw hm)⟩

end UtilityCss.Pattern
