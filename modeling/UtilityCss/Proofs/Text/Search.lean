import Mathlib.Data.List.Infix
import UtilityCss.Proofs.Text.Trim
import UtilityCss.Text.Cut

namespace UtilityCss.Text

theorem after?_isSome_iff {fs cs : List Char} : (after? fs cs).isSome = true ↔ fs <+: cs := by
  rw [Option.isSome_iff_exists]
  constructor
  · rintro ⟨r, hr⟩
    exact ⟨r, (after?_eq_some_iff.1 hr).symm⟩
  · rintro ⟨r, hr⟩
    exact ⟨r, after?_eq_some_iff.2 hr.symm⟩

theorem after?_single (c : Char) (r : List Char) : after? [c] (c :: r) = some r :=
  after?_eq_some_iff.2 rfl

theorem after?_eq_none {c : Char} {cs : List Char} (h : ∀ r, cs ≠ c :: r) : after? [c] cs = none := by
  rw [Option.eq_none_iff_forall_ne_some]
  intro r hr
  exact h r (after?_eq_some_iff.1 hr)

theorem after?_append (a b cs : List Char) : after? (a ++ b) cs = (after? a cs).bind (after? b) := by
  induction a generalizing cs with
  | nil => rfl
  | cons d a ih =>
    cases cs with
    | nil => rfl
    | cons c cs =>
      rw [List.cons_append, after?, after?]
      split
      · exact ih cs
      · rfl

theorem after?_append_cons {c d : Char} (h : c ≠ d) (a b : List Char) :
    after? [d] (a ++ c :: b) = (after? [d] a).map (· ++ c :: b) := by
  cases a with
  | nil =>
    rw [List.nil_append, after?_eq_none fun r hr => h (List.cons.inj hr).1]
    rfl
  | cons e a =>
    by_cases he : e = d
    · rw [he, List.cons_append, after?_single, after?_single, Option.map_some]
    · rw [List.cons_append, after?_eq_none fun r hr => he (List.cons.inj hr).1,
        after?_eq_none fun r hr => he (List.cons.inj hr).1, Option.map_none]

theorem exists_blanks {word text rest : List Char} (h : after? word (dropBlanks text) = some rest) :
    ∃ gap, Blanks gap ∧ text = gap ++ word ++ rest := by
  refine ⟨text.takeWhile isBlank, fun c hc => List.mem_takeWhile_imp hc, ?_⟩
  rw [List.append_assoc, ← after?_eq_some_iff.1 h, dropBlanks, List.takeWhile_append_dropWhile]

theorem contains_iff {mark text : List Char} : contains mark text = true ↔ mark <:+: text := by
  rw [contains]
  induction text with
  | nil => rw [afterFirst?, after?_isSome_iff, List.prefix_nil, List.infix_nil]
  | cons c r ih =>
    rw [afterFirst?, List.infix_cons_iff, ← ih, ← after?_isSome_iff]
    cases after? mark (c :: r) <;> simp

variable {α : Type} {s a b : List α} {x : α}

theorem infix_append_cons_iff (h : x ∉ s) : s <:+: a ++ x :: b ↔ s <:+: a ∨ s <:+: b := by
  have hstarts {t : List α} (ht : x ∉ t) : t <+: x :: b ↔ t = [] := by
    cases t with
    | nil => simp
    | cons y t =>
      rw [List.mem_cons, not_or] at ht
      simp [List.cons_prefix_cons, Ne.symm ht.1]
  rw [List.infix_append_iff, List.infix_cons_iff, hstarts h]
  constructor
  · rintro (ha | (rfl | hb) | ⟨t, u, rfl, ht, hu⟩)
    · exact .inl ha
    · exact .inl (List.nil_infix ..)
    · exact .inr hb
    · rw [hstarts fun hm => h (List.mem_append_right t hm)] at hu
      rw [hu, List.append_nil]
      exact .inl ht.isInfix
  · rintro (ha | hb)
    · exact .inl ha
    · exact .inr (.inl (.inr hb))

theorem takeWhile_append_cons {p : α → Bool} (h : p x = false) (a b : List α) :
    (a ++ x :: b).takeWhile p = a.takeWhile p ∧ (a ++ x :: b).dropWhile p = a.dropWhile p ++ x :: b := by
  induction a with
  | nil => simp [h]
  | cons d a ih => cases hd : p d <;> simp [hd, ih]

theorem dropBlanks_append_cons {c : Char} (h : isBlank c = false) (a b : List Char) :
    dropBlanks (a ++ c :: b) = dropBlanks a ++ c :: b :=
  (takeWhile_append_cons h a b).2

theorem none_or_first (p : α → Bool) (text : List α) : (∀ y ∈ text, p y = false) ∨
    ∃ run y rest, text = run ++ y :: rest ∧ (∀ z ∈ run, p z = false) ∧ p y = true := by
  induction text with
  | nil => exact .inl nofun
  | cons z text ih =>
    cases hz : p z with
    | true => exact .inr ⟨[], z, text, rfl, nofun, hz⟩
    | false =>
      rcases ih with hnone | ⟨run, y, rest, rfl, hr, hy⟩
      · exact .inl (List.forall_mem_cons.2 ⟨hz, hnone⟩)
      · exact .inr ⟨z :: run, y, rest, rfl, List.forall_mem_cons.2 ⟨hz, hr⟩, hy⟩

end UtilityCss.Text
