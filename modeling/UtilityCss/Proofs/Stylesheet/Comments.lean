import UtilityCss.Proofs.Stylesheet.Minified

namespace UtilityCss.Stylesheet

open Text

/-- What is left of a text without its comments: in front of the first one no other begins, and inside it none
ends. -/
inductive Uncommented : List Char → List Char → Prop
  | plain {text : List Char} (h : ∀ a b, text = a ++ '/' :: '*' :: b → Apart '*' '/' b) : Uncommented text text
  | comment {front body rest left : List Char} (hf : Apart '/' '*' front) (hb : Apart '*' '/' body)
      (h : Uncommented rest left) : Uncommented (front ++ '/' :: '*' :: (body ++ '*' :: '/' :: rest)) (front ++ left)

variable {cs rest left body : List Char} {c : Char}

theorem head?_append_ne {a b : List Char} (ha : a.head? ≠ some c) (hb : b.head? ≠ some c) :
    (a ++ b).head? ≠ some c := by
  cases a with
  | nil => exact hb
  | cons d a => exact ha

theorem afterFirst?_end (rest : List Char) : afterFirst? ['*', '/'] ('*' :: '/' :: rest) = some rest := by
  have hsome : after? ['*', '/'] ('*' :: '/' :: rest) = some rest := after?_eq_some_iff.2 rfl
  rw [afterFirst?, hsome]

theorem afterFirst?_cons (h : c = '*' → cs.head? ≠ some '/') :
    afterFirst? ['*', '/'] (c :: cs) = afterFirst? ['*', '/'] cs := by
  have hnone : after? ['*', '/'] (c :: cs) = none := by
    rw [Option.eq_none_iff_forall_ne_some]
    intro r hr
    obtain ⟨rfl, rfl⟩ := List.cons.inj (after?_eq_some_iff.1 hr)
    exact h rfl rfl
  rw [afterFirst?, hnone]

theorem afterFirst?_append (h : Apart '*' '/' body) (rest : List Char) :
    afterFirst? ['*', '/'] (body ++ '*' :: '/' :: rest) = some rest := by
  induction body with
  | nil => exact afterFirst?_end rest
  | cons c body ih =>
    rw [apart_cons] at h
    rw [List.cons_append, afterFirst?_cons fun hc => head?_append_ne (h.1 hc) (by simp), ih h.2]

theorem afterFirst?_cases (cs : List Char) : (afterFirst? ['*', '/'] cs = none ∧ Apart '*' '/' cs) ∨
    ∃ body rest, cs = body ++ '*' :: '/' :: rest ∧ Apart '*' '/' body ∧ afterFirst? ['*', '/'] cs = some rest := by
  induction cs with
  | nil => exact .inl ⟨rfl, .nil⟩
  | cons c cs ih =>
    by_cases hend : c = '*' ∧ cs.head? = some '/'
    · obtain ⟨rfl, hs⟩ := hend
      obtain ⟨cs, rfl⟩ := List.head?_eq_some_iff.1 hs
      exact .inr ⟨[], cs, rfl, .nil, afterFirst?_end cs⟩
    · have hskip : c = '*' → cs.head? ≠ some '/' := fun hc hs => hend ⟨hc, hs⟩
      rw [afterFirst?_cons hskip]
      rcases ih with ⟨hnone, hapart⟩ | ⟨body, rest, rfl, hbody, hsome⟩
      · exact .inl ⟨hnone, apart_cons.2 ⟨hskip, hapart⟩⟩
      · refine .inr ⟨c :: body, rest, rfl, apart_cons.2 ⟨fun hc hs => hskip hc ?_, hbody⟩, hsome⟩
        rw [List.head?_append, hs, Option.some_or]

theorem not_apart {x y : Char} (a b : List Char) : ¬ Apart x y (a ++ x :: y :: b) := by
  intro h
  have hpair := (List.isChain_append.1 h).2.1
  exact (List.isChain_cons_cons.1 hpair).1 ⟨rfl, rfl⟩

theorem Uncommented.cons (h : Uncommented cs left) (hc : ∀ b, c :: cs = '/' :: '*' :: b → Apart '*' '/' b) :
    Uncommented (c :: cs) (c :: left) := by
  cases h with
  | plain h =>
    apply plain
    intro a b he
    cases a with
    | nil => exact hc b he
    | cons d a => exact h a b (List.cons.inj he).2
  | @comment front body rest left hf hb h =>
    refine @comment (c :: front) _ _ _ (apart_cons.2 ⟨?_, hf⟩) hb h
    rintro rfl hs
    obtain ⟨front, rfl⟩ := List.head?_eq_some_iff.1 hs
    -- an opening in front of the first comment would have its end behind it
    have hapart := hc (front ++ '/' :: '*' :: (body ++ '*' :: '/' :: rest)) rfl
    apply not_apart (front ++ '/' :: '*' :: body) rest
    simpa using hapart

theorem uncommented_dropComments (cs : List Char) : Uncommented cs (dropComments cs) := by
  fun_induction dropComments cs with
  | case1 r rest hr ih =>
    rcases afterFirst?_cases r with ⟨hnone, _⟩ | ⟨body, rest', rfl, hbody, hsome⟩
    · rw [hnone] at hr
      cases hr
    · rw [hsome] at hr
      cases hr
      exact @Uncommented.comment [] _ _ _ .nil hbody ih
  | case2 r hr ih =>
    apply ih.cons
    rintro b ⟨⟩
    rcases afterFirst?_cases r with ⟨_, hapart⟩ | ⟨_, _, _, _, hsome⟩
    · exact hapart
    · rw [hr] at hsome
      cases hsome
  | case3 c r hne ih =>
    apply ih.cons
    rintro b ⟨⟩
    exact (hne b rfl rfl).elim
  | case4 => exact .plain (by simp)

theorem dropComments_cons (h : c = '/' → cs.head? ≠ some '*') : dropComments (c :: cs) = c :: dropComments cs := by
  rw [dropComments]
  rintro r rfl rfl
  exact h rfl rfl

theorem dropComments_of_plain (h : ∀ a b, cs = a ++ '/' :: '*' :: b → Apart '*' '/' b) : dropComments cs = cs := by
  fun_induction dropComments cs with
  | case1 r rest hr ih =>
    rcases afterFirst?_cases r with ⟨hnone, _⟩ | ⟨body, _, rfl, _, _⟩
    · rw [hnone] at hr
      cases hr
    · exact absurd (h [] _ rfl) (not_apart body _)
  | case2 r hr ih => rw [ih fun a b he => h ('/' :: a) b (by rw [he]; rfl)]
  | case3 c r hne ih => rw [ih fun a b he => h (c :: a) b (by rw [he]; rfl)]
  | case4 => rfl

theorem dropComments_append {front : List Char} (h : Apart '/' '*' front) (rest : List Char) :
    dropComments (front ++ '/' :: rest) = front ++ dropComments ('/' :: rest) := by
  induction front with
  | nil => rfl
  | cons c front ih =>
    rw [apart_cons] at h
    rw [List.cons_append, dropComments_cons fun hc => head?_append_ne (h.1 hc) (by simp), ih h.2, List.cons_append]

theorem dropComments_comment (h : Apart '*' '/' body) (rest : List Char) :
    dropComments ('/' :: '*' :: (body ++ '*' :: '/' :: rest)) = dropComments rest := by
  rw [dropComments]
  split
  · rename_i hs
    rw [afterFirst?_append h] at hs
    cases hs
    rfl
  · rename_i hs
    rw [afterFirst?_append h] at hs
    cases hs

theorem Uncommented.eq (h : Uncommented cs left) : left = dropComments cs := by
  induction h with
  | plain h => exact (dropComments_of_plain h).symm
  | comment hf hb h ih => rw [dropComments_append hf, dropComments_comment hb, ih]

end UtilityCss.Stylesheet
