import Mathlib.Data.List.Basic
import UtilityCss.Text.Cut

namespace UtilityCss.Text

variable {sep : Char} {mark : String}

theorem pieces_ne_nil (sep : Char) (s : String) : pieces sep s ≠ [] := by
  intro h
  exact List.splitOn_ne_nil _ _ (List.map_eq_nil_iff.1 h)

theorem pieces_of_not_mem {s : String} (h : sep ∉ s.toList) : pieces sep s = [s] := by
  rw [pieces, List.splitOn_eq_singleton h, List.map_singleton, String.ofList_toList]

theorem pieces_join (hm : mark.toList = [sep]) (s t : String) :
    pieces sep (s ++ mark ++ t) = pieces sep s ++ pieces sep t := by
  have hc : (s ++ mark ++ t).toList = s.toList ++ sep :: t.toList := by simp [hm]
  rw [pieces, hc, List.splitOn_append_cons_self, List.map_append, ← pieces, ← pieces]

theorem intercalate_pieces (hm : mark.toList = [sep]) (s : String) :
    mark.intercalate (pieces sep s) = s := by
  rw [← String.toList_inj, String.toList_intercalate, pieces, List.map_map, hm]
  have hid : String.toList ∘ String.ofList = id := funext fun cs => String.toList_ofList
  rw [hid, List.map_id]
  exact List.intercalate_splitOn sep

theorem pieces_intercalate (hm : mark.toList = [sep]) {xs : List String} (hne : xs ≠ [])
    (h : ∀ x ∈ xs, sep ∉ x.toList) : pieces sep (mark.intercalate xs) = xs := by
  have hne' : xs.map String.toList ≠ [] := fun he => hne (List.map_eq_nil_iff.1 he)
  rw [pieces, String.toList_intercalate, hm,
    List.splitOn_intercalate sep (List.forall_mem_map.2 h) hne', List.map_map]
  have hid : String.ofList ∘ String.toList = id := funext fun s => String.ofList_toList
  rw [hid, List.map_id]

theorem suffix_intercalate (mark : String) (front rest : List String) :
    (mark.intercalate rest).toList <:+ (mark.intercalate (front ++ rest)).toList := by
  by_cases hf : front = []
  · subst hf
    exact List.suffix_refl _
  · by_cases hr : rest = []
    · rw [hr]
      exact List.nil_suffix
    · rw [String.intercalate_append_of_ne_nil hf hr, String.toList_append]
      exact List.suffix_append _ _

theorem not_of_mem_splitOnP {α : Type} {p : α → Bool} {xs piece : List α} (h : piece ∈ xs.splitOnP p) :
    ∀ x ∈ piece, p x = false := by
  induction xs generalizing piece with
  | nil =>
    rw [List.splitOnP_nil, List.mem_singleton] at h
    rw [h]
    exact nofun
  | cons d r ih =>
    rw [List.splitOnP_cons_eq_if_modifyHead] at h
    split at h
    · rcases List.mem_cons.1 h with rfl | h
      · exact nofun
      · exact ih h
    · rename_i hd
      obtain ⟨first, rest, hs⟩ := List.exists_cons_of_ne_nil (List.splitOnP_ne_nil p r)
      rw [hs, List.modifyHead_cons, List.mem_cons] at h
      rcases h with rfl | h
      · rw [List.forall_mem_cons]
        exact ⟨Bool.eq_false_iff.2 hd, ih (hs ▸ List.mem_cons_self ..)⟩
      · exact ih (hs ▸ List.mem_cons_of_mem _ h)

theorem not_mem_of_mem_pieces {s piece : String} (h : piece ∈ pieces sep s) : sep ∉ piece.toList := by
  obtain ⟨cs, hcs, rfl⟩ := List.mem_map.1 h
  rw [String.toList_ofList]
  intro hm
  have hsep := not_of_mem_splitOnP hcs sep hm
  simp at hsep

theorem pieces_append {s : String} (h : sep ∉ s.toList) (t : String) :
    pieces sep (s ++ t) = (pieces sep t).modifyHead (s ++ ·) := by
  have hsplit (a : List Char) (ha : sep ∉ a) :
      (a ++ t.toList).splitOn sep = (t.toList.splitOn sep).modifyHead (a ++ ·) := by
    induction a with
    | nil =>
      have hid : (fun x : List Char => [] ++ x) = id := rfl
      rw [hid, List.modifyHead_id]
      rfl
    | cons c a ih =>
      rw [List.mem_cons, not_or] at ha
      have hc : (c == sep) = false := by simpa using Ne.symm ha.1
      rw [List.cons_append, List.splitOn, List.splitOnP_cons_eq_if_modifyHead, hc, if_neg Bool.false_ne_true,
        ← List.splitOn, ih ha.2, List.modifyHead_modifyHead]
      rfl
  rw [pieces, String.toList_append, hsplit _ h, pieces]
  cases t.toList.splitOn sep with
  | nil => rfl
  | cons p ps => simp [String.ofList_append]

theorem cut?_append {c : Char} {a : List Char} (h : c ∉ a) (b : List Char) : cut? c (a ++ c :: b) = some (a, b) := by
  induction a with
  | nil => rw [List.nil_append, cut?, if_pos rfl]
  | cons d a ih =>
    rw [List.mem_cons, not_or] at h
    rw [List.cons_append, cut?, if_neg (Ne.symm h.1), ih h.2]
    rfl

theorem cut?_eq_some {c : Char} {cs a b : List Char} (h : cut? c cs = some (a, b)) : cs = a ++ c :: b := by
  induction cs generalizing a with
  | nil => cases h
  | cons d cs ih =>
    rw [cut?] at h
    split at h
    · rename_i hd
      cases h
      rw [hd, List.nil_append]
    · obtain ⟨⟨a', b'⟩, hc, he⟩ := Option.map_eq_some_iff.1 h
      cases he
      rw [ih hc, List.cons_append]

theorem not_mem_of_cut? {c : Char} {cs a b : List Char} (h : cut? c cs = some (a, b)) : c ∉ a := by
  induction cs generalizing a with
  | nil => cases h
  | cons d cs ih =>
    rw [cut?] at h
    split at h
    · cases h
      exact List.not_mem_nil
    · rename_i hd
      obtain ⟨⟨a', b'⟩, hc, he⟩ := Option.map_eq_some_iff.1 h
      cases he
      exact fun hm => (List.mem_cons.1 hm).elim (fun he => hd he.symm) (ih hc)

theorem not_mem_of_cut?_eq_none {c : Char} {cs : List Char} (h : cut? c cs = none) : c ∉ cs := by
  intro hm
  obtain ⟨a, b, rfl, ha⟩ := List.eq_append_cons_of_mem hm
  rw [cut?_append ha] at h
  cases h

theorem cut?_eq_none {c : Char} {cs : List Char} (h : c ∉ cs) : cut? c cs = none := by
  rw [Option.eq_none_iff_forall_ne_some]
  rintro ⟨a, b⟩ hs
  exact h (by simp [cut?_eq_some hs])

theorem intercalate_flatten {xss : List (List String)} (h : ∀ xs ∈ xss, xs ≠ []) :
    mark.intercalate (xss.map mark.intercalate) = mark.intercalate xss.flatten := by
  induction xss with
  | nil => rfl
  | cons xs xss ih =>
    have hxs : xs ≠ [] := h xs (List.mem_cons_self ..)
    have hi := ih fun ys hy => h ys (List.mem_cons_of_mem _ hy)
    cases xss with
    | nil => simp
    | cons ys rest =>
      have hys : ys ≠ [] := h ys (by simp)
      have hrest : (ys :: rest).flatten ≠ [] := by simp [hys]
      rw [List.map_cons, String.intercalate_cons_of_ne_nil (by simp), hi,
        ← String.intercalate_append_of_ne_nil hxs hrest]
      rfl

end UtilityCss.Text
