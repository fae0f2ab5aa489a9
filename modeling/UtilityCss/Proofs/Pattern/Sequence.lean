import Mathlib.Computability.Language
import UtilityCss.Proofs.Pattern.Groups

/-!
Brace patterns as sequences of signs and groups, where a group has one sequence or more between its commas.
A sequence stands for a language: a group for the union of its alternatives, a sign for itself, and what
stands one behind the other for the concatenation.
-/

namespace UtilityCss.Pattern

def IsSign (inside : Bool) (c : Char) : Prop :=
  c ≠ '\x7b' ∧ c ≠ '\x7d' ∧ (inside = true → c ≠ ',')

instance (inside : Bool) (c : Char) : Decidable (IsSign inside c) :=
  inferInstanceAs (Decidable (_ ∧ _))

mutual

inductive Sequence : Bool → Type
  | done {inside : Bool} : Sequence inside
  | sign {inside : Bool} (c : Char) (h : IsSign inside c) (rest : Sequence inside) : Sequence inside
  | group {inside : Bool} (alternatives : Alternatives) (rest : Sequence inside) : Sequence inside

inductive Alternatives : Type
  | last (s : Sequence true) : Alternatives
  | more (s : Sequence true) (rest : Alternatives) : Alternatives

end

mutual

def Sequence.text {inside : Bool} : Sequence inside → List Char
  | .done => []
  | .sign c _ rest => c :: rest.text
  | .group alternatives rest => '\x7b' :: alternatives.text ++ '\x7d' :: rest.text

def Alternatives.text : Alternatives → List Char
  | .last s => s.text
  | .more s rest => s.text ++ ',' :: rest.text

end

mutual

def Sequence.denotation {inside : Bool} : Sequence inside → Language Char
  | .done => 1
  | .sign c _ rest => {[c]} * rest.denotation
  | .group alternatives rest => alternatives.denotation * rest.denotation

def Alternatives.denotation : Alternatives → Language Char
  | .last s => s.denotation
  | .more s rest => s.denotation + rest.denotation

end

def selections {α : Type} : List (List α) → List (List α)
  | [] => [[]]
  | xs :: rest => xs.flatMap fun x => (selections rest).map (x :: ·)

mutual

/-- The texts that expansion gives a sequence, in order and as often as it gives them: for every choice in all
alternatives of a group it goes through all of them. -/
def Sequence.texts {inside : Bool} : Sequence inside → List (List Char)
  | .done => [[]]
  | .sign c _ rest => rest.texts.map (c :: ·)
  | .group alternatives rest =>
    (selections alternatives.columns).flatten.flatMap fun w => rest.texts.map (w ++ ·)

def Alternatives.columns : Alternatives → List (List (List Char))
  | .last s => [s.texts]
  | .more s rest => s.texts :: rest.columns

end

variable {α : Type} {inside : Bool} {a b : List Char}

theorem forall_mem_selections {P : α → Prop} {columns : List (List α)} (h : ∀ xs ∈ columns, ∀ x ∈ xs, P x) :
    ∀ row ∈ selections columns, row.length = columns.length ∧ ∀ x ∈ row, P x := by
  induction columns with
  | nil => simp [selections]
  | cons xs rest ih =>
    rw [List.forall_mem_cons] at h
    intro row hrow
    obtain ⟨x, hx, hrow⟩ := List.mem_flatMap.1 hrow
    obtain ⟨tail, htail, rfl⟩ := List.mem_map.1 hrow
    obtain ⟨hlength, hall⟩ := ih h.2 tail htail
    exact ⟨by simp [hlength], List.forall_mem_cons.2 ⟨h.1 x hx, hall⟩⟩

theorem selections_ne_nil {columns : List (List α)} (h : ∀ xs ∈ columns, xs ≠ []) : selections columns ≠ [] := by
  induction columns with
  | nil => exact List.cons_ne_nil _ _
  | cons xs rest ih =>
    rw [List.forall_mem_cons] at h
    obtain ⟨x, hx⟩ := List.exists_mem_of_ne_nil xs h.1
    obtain ⟨row, hrow⟩ := List.exists_mem_of_ne_nil _ (ih h.2)
    exact List.ne_nil_of_mem (List.mem_flatMap.2 ⟨x, hx, List.mem_map_of_mem hrow⟩)

theorem mem_flatten_selections {columns : List (List α)} (h : ∀ xs ∈ columns, xs ≠ []) (x : α) :
    x ∈ (selections columns).flatten ↔ x ∈ columns.flatten := by
  induction columns with
  | nil => simp [selections]
  | cons xs rest ih =>
    rw [List.forall_mem_cons] at h
    have hi := ih h.2
    obtain ⟨y, hy⟩ := List.exists_mem_of_ne_nil xs h.1
    obtain ⟨tail, htail⟩ := List.exists_mem_of_ne_nil _ (selections_ne_nil h.2)
    rw [List.flatten_cons, List.mem_append, ← hi]
    simp only [selections, List.mem_flatten, List.mem_flatMap, List.mem_map]
    constructor
    · rintro ⟨_, ⟨z, hz, row, hrow, rfl⟩, hx⟩
      rcases List.mem_cons.1 hx with rfl | hx
      · exact .inl hz
      · exact .inr ⟨row, hrow, hx⟩
    · rintro (hx | ⟨row, hrow, hx⟩)
      · exact ⟨x :: tail, ⟨x, hx, tail, htail, rfl⟩, List.mem_cons_self ..⟩
      · exact ⟨y :: row, ⟨y, hy, row, hrow, rfl⟩, List.mem_cons_of_mem y hx⟩

theorem exists_mem_flatten {columns : List (List α)} (hne : columns ≠ []) (h : ∀ xs ∈ columns, xs ≠ []) :
    ∃ x, x ∈ (selections columns).flatten := by
  obtain ⟨xs, hxs⟩ := List.exists_mem_of_ne_nil _ hne
  obtain ⟨x, hx⟩ := List.exists_mem_of_ne_nil _ (h xs hxs)
  exact ⟨x, (mem_flatten_selections h x).2 (List.mem_flatten_of_mem hxs hx)⟩

theorem Alternatives.columns_ne_nil : ∀ as : Alternatives, as.columns ≠ []
  | .last _ => List.cons_ne_nil _ _
  | .more _ _ => List.cons_ne_nil _ _

mutual

theorem Sequence.texts_ne_nil {inside : Bool} : ∀ t : Sequence inside, t.texts ≠ []
  | .done => List.cons_ne_nil _ _
  | .sign _ _ rest => fun h => rest.texts_ne_nil (List.map_eq_nil_iff.1 h)
  | .group as rest => by
    obtain ⟨w, hw⟩ := exists_mem_flatten as.columns_ne_nil as.ne_nil_of_mem_columns
    obtain ⟨v, hv⟩ := List.exists_mem_of_ne_nil _ rest.texts_ne_nil
    exact List.ne_nil_of_mem (List.mem_flatMap.2 ⟨w, hw, List.mem_map_of_mem hv⟩)

theorem Alternatives.ne_nil_of_mem_columns : ∀ as : Alternatives, ∀ xs ∈ as.columns, xs ≠ []
  | .last s => List.forall_mem_singleton.2 s.texts_ne_nil
  | .more s rest => List.forall_mem_cons.2 ⟨s.texts_ne_nil, rest.ne_nil_of_mem_columns⟩

end

mutual

theorem Sequence.mem_texts_iff {inside : Bool} : ∀ (t : Sequence inside) (w : List Char),
    w ∈ t.texts ↔ w ∈ t.denotation
  | .done, w => by
    rw [Sequence.texts, Sequence.denotation, Language.mem_one, List.mem_singleton]
  | .sign c _ rest, w => by
    rw [Sequence.texts, Sequence.denotation, Language.mem_mul, List.mem_map]
    constructor
    · rintro ⟨v, hv, rfl⟩
      exact ⟨[c], rfl, v, (rest.mem_texts_iff v).1 hv, rfl⟩
    · rintro ⟨_, rfl, v, hv, rfl⟩
      exact ⟨v, (rest.mem_texts_iff v).2 hv, rfl⟩
  | .group as rest, w => by
    rw [Sequence.texts, Sequence.denotation, Language.mem_mul, List.mem_flatMap]
    simp only [mem_flatten_selections as.ne_nil_of_mem_columns, as.mem_columns_iff, List.mem_map, rest.mem_texts_iff]

theorem Alternatives.mem_columns_iff : ∀ (as : Alternatives) (w : List Char),
    w ∈ as.columns.flatten ↔ w ∈ as.denotation
  | .last s, w => by
    rw [Alternatives.columns, Alternatives.denotation, List.flatten_singleton]
    exact s.mem_texts_iff w
  | .more s rest, w => by
    rw [Alternatives.columns, Alternatives.denotation, List.flatten_cons, List.mem_append, Language.mem_add, s.mem_texts_iff,
      rest.mem_columns_iff]

end

def Unbroken (inside : Bool) (w : List Char) : Prop :=
  Braceless w ∧ (inside = true → ',' ∉ w)

theorem Unbroken.append (ha : Unbroken inside a) (hb : Unbroken inside b) : Unbroken inside (a ++ b) := by
  refine ⟨ha.1.append hb.1, fun hin => ?_⟩
  rw [List.mem_append, not_or]
  exact ⟨ha.2 hin, hb.2 hin⟩

theorem IsSign.unbroken {c : Char} (h : IsSign inside c) : Unbroken inside [c] := by
  simpa [Unbroken, Braceless, IsSign, and_assoc, eq_comm] using h

theorem Unbroken.outside {w : List Char} (h : Unbroken true w) : Unbroken inside w :=
  ⟨h.1, fun _ => h.2 rfl⟩

mutual

theorem Sequence.unbroken {inside : Bool} : ∀ t : Sequence inside, ∀ w ∈ t.texts, Unbroken inside w
  | .done => by
    rw [Sequence.texts, List.forall_mem_singleton]
    exact ⟨⟨List.not_mem_nil, List.not_mem_nil⟩, fun _ => List.not_mem_nil⟩
  | .sign c h rest => by
    rw [Sequence.texts, List.forall_mem_map]
    exact fun v hv => h.unbroken.append (rest.unbroken v hv)
  | .group as rest => by
    intro w hw
    obtain ⟨u, hu, hw⟩ := List.mem_flatMap.1 hw
    obtain ⟨v, hv, rfl⟩ := List.mem_map.1 hw
    obtain ⟨xs, hxs, hu⟩ := List.mem_flatten.1 ((mem_flatten_selections as.ne_nil_of_mem_columns u).1 hu)
    exact (as.unbroken xs hxs u hu).outside.append (rest.unbroken v hv)

theorem Alternatives.unbroken : ∀ as : Alternatives, ∀ xs ∈ as.columns, ∀ w ∈ xs, Unbroken true w
  | .last s => List.forall_mem_singleton.2 s.unbroken
  | .more s rest => List.forall_mem_cons.2 ⟨s.unbroken, rest.unbroken⟩

end

theorem Alternatives.row_spec (as : Alternatives) {row : List (List Char)} (h : row ∈ selections as.columns) :
    row ≠ [] ∧ ∀ w ∈ row, Unbroken true w := by
  obtain ⟨hlength, hall⟩ := forall_mem_selections as.unbroken row h
  refine ⟨?_, hall⟩
  rintro rfl
  exact as.columns_ne_nil (List.length_eq_zero_iff.1 hlength.symm)

theorem braceless_intercalate {row : List (List Char)} (h : ∀ w ∈ row, Unbroken true w) :
    Braceless ([','].intercalate row) := by
  induction row with
  | nil => exact ⟨List.not_mem_nil, List.not_mem_nil⟩
  | cons w row ih =>
    rw [List.forall_mem_cons] at h
    by_cases hne : row = []
    · rw [hne, List.intercalate_singleton]
      exact h.1.1
    · have hcomma : Braceless [','] := by decide
      rw [List.intercalate_cons_of_ne_nil hne]
      exact (h.1.1.append hcomma).append (ih h.2)

end UtilityCss.Pattern
