import Mathlib.Data.Finset.Card
import Mathlib.Data.List.Induction
import Mathlib.Data.List.Nodup

namespace UtilityCss

variable {α : Type} [BEq α] [LawfulBEq α]

theorem eraseDups_concat (xs : List α) (x : α) :
    (xs ++ [x]).eraseDups = if x ∈ xs then xs.eraseDups else xs.eraseDups ++ [x] := by
  rw [List.eraseDups_append, List.removeAll, List.filter_singleton]
  by_cases h : x ∈ xs <;> simp [h, List.eraseDups_cons]

theorem nodup_eraseDups (xs : List α) : xs.eraseDups.Nodup := by
  induction xs using List.reverseRecOn with
  | nil => exact List.nodup_nil
  | append_singleton xs x ih =>
    rw [eraseDups_concat]
    split
    · exact ih
    · rename_i hx
      have hfresh : x ∉ xs.eraseDups := fun hm => hx (List.mem_eraseDups.1 hm)
      have hconcat := ih.concat hfresh
      rwa [List.concat_eq_append] at hconcat

theorem eraseDups_of_nodup {xs : List α} (h : xs.Nodup) : xs.eraseDups = xs := by
  induction xs using List.reverseRecOn with
  | nil => rfl
  | append_singleton xs x ih =>
    obtain ⟨hxs, _, hfresh⟩ := List.nodup_append.1 h
    have hx : x ∉ xs := fun hm => hfresh x hm x (List.mem_singleton.2 rfl) rfl
    rw [eraseDups_concat, if_neg hx, ih hxs]

theorem length_eraseDups {xs ys : List α} (hys : ys.Nodup) (h : ∀ x, x ∈ xs ↔ x ∈ ys) :
    xs.eraseDups.length = ys.length := by
  refine ((List.perm_ext_iff_of_nodup (nodup_eraseDups xs) hys).2 fun x => ?_).length_eq
  rw [List.mem_eraseDups, h]

theorem eraseDups_append_eraseDups (xs ys : List α) :
    (xs.eraseDups ++ ys.eraseDups).eraseDups = (xs ++ ys).eraseDups := by
  induction ys using List.reverseRecOn with
  | nil =>
    rw [List.eraseDups_nil, List.append_nil, List.append_nil]
    exact eraseDups_of_nodup (nodup_eraseDups xs)
  | append_singleton ys y ih =>
    rw [← List.append_assoc, eraseDups_concat, eraseDups_concat]
    by_cases h : y ∈ ys
    · rw [if_pos h, if_pos (List.mem_append_right xs h), ih]
    · have hmem : y ∈ xs.eraseDups ++ ys.eraseDups ↔ y ∈ xs ++ ys := by simp
      rw [if_neg h, ← List.append_assoc, eraseDups_concat, ih]
      simp only [hmem]

theorem length_eraseDups_eq_card [DecidableEq α] (xs : List α) : xs.eraseDups.length = xs.toFinset.card := by
  have hmem : xs.eraseDups.toFinset = xs.toFinset := by
    ext x
    simp
  rw [← List.toFinset_card_of_nodup (nodup_eraseDups xs), hmem]

theorem length_eraseDups_map_iff {β : Type} [BEq β] [LawfulBEq β] (f : α → β) (xs : List α) :
    (xs.map f).eraseDups.length = xs.eraseDups.length ↔ ∀ x ∈ xs, ∀ y ∈ xs, f x = f y → x = y := by
  classical
  have himage : (xs.map f).toFinset = xs.toFinset.image f := by
    ext y
    simp
  rw [length_eraseDups_eq_card, length_eraseDups_eq_card, himage, Finset.card_image_iff]
  simp [Set.InjOn]

end UtilityCss
