import UtilityCss.Text.Cut

/-!
Brace patterns: `a{b,c}d` stands for `abd` and `acd`. The first group without a group inside is expanded
until none is left; a brace without its partner stands for itself.
-/

namespace UtilityCss.Pattern

open Text

/-- The first innermost group: the text before it, its inside, and the text behind it. `head` and
`inside` are reversed, and `inside` is the text since the last opening brace. -/
def findGroup (head : List Char) (inside : Option (List Char)) :
    List Char → Option (List Char × List Char × List Char)
  | [] => none
  | c :: r =>
    match inside with
    | none => if c = '\x7b' then findGroup head (some []) r else findGroup (c :: head) none r
    | some run =>
      if c = '\x7d' then some (head.reverse, run.reverse, r)
      else if c = '\x7b' then findGroup (run ++ '\x7b' :: head) (some []) r
      else findGroup head (some (c :: run)) r

def group? (cs : List Char) : Option (List Char × List Char × List Char) :=
  findGroup [] none cs

theorem findGroup_eq {head cs a i b : List Char} {inside : Option (List Char)}
    (h : findGroup head inside cs = some (a, i, b)) :
    a ++ '\x7b' :: i ++ '\x7d' :: b =
      head.reverse ++ (match inside with | none => [] | some run => '\x7b' :: run.reverse) ++ cs := by
  induction cs generalizing head inside with
  | nil => simp [findGroup] at h
  | cons c r ih =>
    cases inside with
    | none =>
      by_cases hc : c = '\x7b'
      · rw [findGroup, if_pos hc] at h
        simp [ih h, hc]
      · rw [findGroup, if_neg hc] at h
        simp [ih h]
    | some run =>
      by_cases hc : c = '\x7d'
      · rw [findGroup, if_pos hc] at h
        simp only [Option.some.injEq, Prod.mk.injEq] at h
        simp [← h.1, ← h.2.1, ← h.2.2, hc]
      · by_cases ho : c = '\x7b'
        · rw [findGroup, if_neg hc, if_pos ho] at h
          simp [ih h, ho]
        · rw [findGroup, if_neg hc, if_neg ho] at h
          simp [ih h]

theorem group?_eq {cs a i b : List Char} (h : group? cs = some (a, i, b)) :
    cs = a ++ '\x7b' :: i ++ '\x7d' :: b := by
  have := findGroup_eq h
  simpa using this.symm

def opens (cs : List Char) : Nat :=
  cs.count '\x7b'

theorem opens_le_of_mem_splitOn {sep : Char} {cs w : List Char} (h : w ∈ cs.splitOn sep) :
    opens w ≤ opens cs := by
  induction cs generalizing w with
  | nil => simp_all [List.splitOn]
  | cons c r ih =>
    rw [List.splitOn, List.splitOnP_cons_eq_if_modifyHead] at h
    split at h
    · rcases List.mem_cons.1 h with rfl | h
      · simp [opens]
      · exact Nat.le_trans (ih h) (List.count_le_count_cons ..)
    · cases hs : r.splitOnP (· == sep) with
      | nil => simp [hs] at h
      | cons v vs =>
        rw [hs, List.modifyHead_cons] at h
        rcases List.mem_cons.1 h with rfl | h
        · have := ih (w := v) (by simp [List.splitOn, hs])
          simp only [opens, List.count_cons] at this ⊢
          omega
        · exact Nat.le_trans (ih (by simp [List.splitOn, hs, h])) (List.count_le_count_cons ..)

theorem opens_lt_of_mem {cs a i b w : List Char} (h : group? cs = some (a, i, b))
    (hw : w ∈ i.splitOn ',') : opens (a ++ w ++ b) < opens cs := by
  have hi := opens_le_of_mem_splitOn hw
  rw [group?_eq h]
  simp only [opens, List.count_append, List.count_cons] at hi ⊢
  simp
  omega

def expand (cs : List Char) : List (List Char) :=
  match _h : group? cs with
  | none => [cs]
  | some (a, i, b) => (i.splitOn ',').attach.flatMap fun w => expand (a ++ w.1 ++ b)
termination_by opens cs
decreasing_by exact opens_lt_of_mem _h w.2

def expandBraces (pattern : String) : List String :=
  (expand pattern.toList).map String.ofList

end UtilityCss.Pattern
