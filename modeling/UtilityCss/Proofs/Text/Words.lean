import UtilityCss.Proofs.Text.Pieces
import UtilityCss.Proofs.Text.Trim

namespace UtilityCss.Text

variable {a b w text : List Char} {c : Char}

structure Word (w text : List Char) : Prop where
  nonempty : w ≠ []
  solid : ∀ c ∈ w, isBlank c = false
  within : ∃ a b, text = a ++ w ++ b ∧ (∀ c ∈ a.getLast?, isBlank c = true) ∧ ∀ c ∈ b.head?, isBlank c = true

theorem words_append_cons (hc : isBlank c = true) (a b : List Char) : words (a ++ c :: b) = words a ++ words b := by
  rw [words, List.splitOnP_append_cons a b hc, List.filter_append, ← words, ← words]

theorem words_append (h : ∀ c ∈ b.head?, isBlank c = true) : words (a ++ b) = words a ++ words b := by
  cases b with
  | nil => simp [words]
  | cons c b =>
    have hc : isBlank c = true := h c rfl
    have hb : words (c :: b) = words b := words_append_cons hc [] b
    rw [words_append_cons hc, hb]

theorem append_words (h : ∀ c ∈ a.getLast?, isBlank c = true) : words (a ++ b) = words a ++ words b := by
  rcases List.eq_nil_or_concat' a with rfl | ⟨a, c, rfl⟩
  · rfl
  · have hc : isBlank c = true := h c (by simp)
    have ha : words (a ++ [c]) = words a := by
      rw [words_append_cons hc]
      exact List.append_nil _
    rw [ha, List.append_assoc, List.singleton_append, words_append_cons hc]

theorem words_of_solid (hw : w ≠ []) (h : ∀ c ∈ w, isBlank c = false) : words w = [w] := by
  rw [words, List.splitOnP_eq_singleton (by simpa using h)]
  simp [hw]

theorem eq_of_mem_words (hw : w ∈ words text) (h : ∀ c ∈ text, isBlank c = false) : w = text := by
  have ht : text ≠ [] := by
    rintro rfl
    simp [words] at hw
  rwa [words_of_solid ht h, List.mem_singleton] at hw

theorem Word.mem_words (h : Word w text) : w ∈ words text := by
  obtain ⟨a, b, rfl, ha, hb⟩ := h.within
  rw [words_append hb, append_words ha, words_of_solid h.nonempty h.solid]
  simp

theorem Word.behind (h : Word w b) (hc : isBlank c = true) (a : List Char) : Word w (a ++ c :: b) := by
  obtain ⟨front, back, rfl, hf, hb⟩ := h.within
  refine ⟨h.nonempty, h.solid, a ++ c :: front, back, by simp, ?_, hb⟩
  rw [List.getLast?_append, List.getLast?_cons]
  cases hl : front.getLast? with
  | none => simpa using hc
  | some d => simpa using hf d hl

theorem word_of_mem_words (h : w ∈ words text) : Word w text := by
  induction hn : text.length using Nat.strong_induction_on generalizing text with
  | _ n ih =>
    by_cases hsolid : ∀ c ∈ text, isBlank c = false
    · obtain rfl := eq_of_mem_words h hsolid
      exact ⟨mem_words_ne_nil h, hsolid, [], [], by simp, nofun, nofun⟩
    · -- the text is cut at its first blank
      obtain ⟨d, hd, hblank⟩ : ∃ d ∈ text, isBlank d = true := by simpa using hsolid
      obtain ⟨c, a, b, ha, hc, rfl, _⟩ := List.exists_of_eraseP hd hblank
      have ha : ∀ c ∈ a, isBlank c = false := by simpa using ha
      rw [words_append_cons hc, List.mem_append] at h
      rcases h with h | h
      · obtain rfl := eq_of_mem_words h ha
        refine ⟨mem_words_ne_nil h, ha, [], c :: b, by simp, nofun, ?_⟩
        rintro _ ⟨⟩
        exact hc
      · refine (ih b.length ?_ h rfl).behind hc a
        rw [← hn, List.length_append, List.length_cons]
        omega

theorem mem_words_iff : w ∈ words text ↔ Word w text :=
  ⟨word_of_mem_words, Word.mem_words⟩

end UtilityCss.Text
