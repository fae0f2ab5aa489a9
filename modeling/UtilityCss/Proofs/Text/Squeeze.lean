import UtilityCss.Proofs.Text.Trim

/-!
Squeezing a text: a run of blanks becomes one, and next to marks it goes. A text can be squeezed in parts at
any letter that is not blank, and what is squeezed stays as it is.
-/

namespace UtilityCss.Text

/-- Which letters of an alphabet are blank, which ones need no blanks next to them, and what a run of blanks
becomes. -/
structure Spacing (α : Type) where
  blank : α → Bool
  mark : α → Bool
  space : α
  blank_space : blank space = true

namespace Spacing

variable {α : Type} (σ : Spacing α)

def gives (follow : Bool) : List α → Bool
  | [] => follow
  | d :: _ => σ.blank d || σ.mark d

def squeeze (glue follow : Bool) : List α → List α
  | [] => []
  | c :: r =>
    if σ.blank c then
      if glue || σ.gives follow r then squeeze glue follow r else σ.space :: squeeze false follow r
    else c :: squeeze (σ.mark c) follow r

variable {σ} {a b u : List α} {c : α} {glue follow : Bool}

theorem gives_congr (h : b.head? = a.head?) : σ.gives follow b = σ.gives follow a := by
  cases a <;> cases b <;> cases h <;> rfl

theorem squeeze_solid (hc : σ.blank c = false) (glue follow : Bool) (r : List α) :
    σ.squeeze glue follow (c :: r) = c :: σ.squeeze (σ.mark c) follow r := by
  rw [squeeze, if_neg (by simp [hc])]

theorem squeeze_append (hc : σ.blank c = false) (glue follow : Bool) (a r : List α) :
    σ.squeeze glue follow (a ++ c :: r) = σ.squeeze glue (σ.mark c) a ++ σ.squeeze false follow (c :: r) := by
  induction a generalizing glue with
  | nil => rw [List.nil_append, squeeze_solid hc, squeeze_solid hc, squeeze, List.nil_append]
  | cons d a ih =>
    have hgives : σ.gives follow (a ++ c :: r) = σ.gives (σ.mark c) a := by
      cases a with
      | nil => simp [gives, hc]
      | cons => rfl
    rw [List.cons_append, squeeze, squeeze, hgives]
    split
    · split
      · exact ih glue
      · rw [ih, List.cons_append]
    · rw [ih, List.cons_append]

theorem squeeze_twice {x m : α} {u b : List α} (hx : σ.blank x = false) (hxm : σ.mark x = false)
    (hm : σ.blank m = false) (hmm : σ.mark m = true) (glue : Bool) (a : List α) :
    σ.squeeze glue true (a ++ (x :: u ++ (m :: b ++ x :: u))) =
      σ.squeeze glue false a ++ (σ.squeeze false true (x :: u) ++
        (σ.squeeze false false (m :: b) ++ σ.squeeze false true (x :: u))) := by
  have hfirst : x :: u ++ (m :: b ++ x :: u) = x :: (u ++ (m :: b ++ x :: u)) := List.cons_append
  have hsecond : m :: b ++ x :: u = m :: (b ++ x :: u) := List.cons_append
  rw [hfirst, squeeze_append hx, hxm, ← hfirst, hsecond, squeeze_append hm, hmm, ← hsecond, squeeze_append hx, hxm]

theorem squeeze_of_solid (h : ∀ c ∈ a, σ.blank c = false) (glue follow : Bool) : σ.squeeze glue follow a = a := by
  induction a generalizing glue with
  | nil => rfl
  | cons c r ih =>
    rw [List.forall_mem_cons] at h
    rw [squeeze_solid h.1, ih h.2]

theorem squeeze_plain_append (h : ∀ c ∈ a, σ.blank c = false ∧ σ.mark c = false) (follow : Bool) (r : List α) :
    σ.squeeze false follow (a ++ r) = a ++ σ.squeeze false follow r := by
  induction a with
  | nil => rfl
  | cons c a ih =>
    rw [List.forall_mem_cons] at h
    rw [List.cons_append, squeeze_solid h.1.1, h.1.2, ih h.2, List.cons_append]

theorem squeeze_blanks (h : ∀ c ∈ u, σ.blank c = true) (follow : Bool) (a : List α) :
    σ.squeeze true follow (u ++ a) = σ.squeeze true follow a := by
  induction u with
  | nil => rfl
  | cons c u ih =>
    rw [List.forall_mem_cons] at h
    rw [List.cons_append, squeeze, if_pos h.1, Bool.true_or, if_pos rfl, ih h.2]

theorem squeeze_last (h : ∀ c ∈ u, σ.blank c = true) (glue : Bool) (a : List α) :
    σ.squeeze glue true (a ++ u) = σ.squeeze glue true a := by
  have hgives (v : List α) (hv : ∀ c ∈ v, σ.blank c = true) : σ.gives true v = true := by
    cases v with
    | nil => rfl
    | cons c v => simp [gives, hv]
  have hu (glue : Bool) (v : List α) (hv : ∀ c ∈ v, σ.blank c = true) : σ.squeeze glue true v = [] := by
    induction v with
    | nil => rfl
    | cons c v ih =>
      rw [List.forall_mem_cons] at hv
      rw [squeeze, if_pos hv.1, hgives v hv.2, Bool.or_true, if_pos rfl, ih hv.2]
  induction a generalizing glue with
  | nil => exact hu glue u h
  | cons c a ih =>
    have hsame : σ.gives true (a ++ u) = σ.gives true a := by
      cases a with
      | nil => exact hgives u h
      | cons => rfl
    rw [List.cons_append, squeeze, squeeze, hsame, ih, ih, ih]

theorem squeeze_of_not_gives (h : σ.gives follow a = false) (glue glue' : Bool) :
    σ.squeeze glue follow a = σ.squeeze glue' follow a := by
  cases a with
  | nil => rfl
  | cons c r =>
    rw [gives, Bool.or_eq_false_iff] at h
    rw [squeeze_solid h.1, squeeze_solid h.1]

theorem gives_squeeze (h : σ.gives follow a = false) (glue : Bool) :
    σ.gives follow (σ.squeeze glue follow a) = false := by
  cases a with
  | nil => exact h
  | cons c r =>
    rw [gives, Bool.or_eq_false_iff] at h
    rw [squeeze_solid h.1, gives, h.1, h.2]
    rfl

theorem first_squeeze (follow : Bool) (a : List α) :
    ∀ c ∈ (σ.squeeze true follow a).head?, σ.blank c = false := by
  induction a with
  | nil => nofun
  | cons d r ih =>
    rw [squeeze]
    split
    · exact ih
    · rename_i hd
      rintro _ ⟨⟩
      simpa using hd

theorem last_squeeze (glue : Bool) (a : List α) :
    ∀ c ∈ (σ.squeeze glue true a).getLast?, σ.blank c = false := by
  induction a generalizing glue with
  | nil => nofun
  | cons d r ih =>
    have hcons (glue : Bool) (e : α) (h : σ.squeeze glue true r = [] → σ.blank e = false) :
        ∀ c ∈ (e :: σ.squeeze glue true r).getLast?, σ.blank c = false := by
      intro c hc
      rw [List.getLast?_cons] at hc
      cases hl : (σ.squeeze glue true r).getLast? with
      | none =>
        rw [hl] at hc
        cases hc
        exact h (List.getLast?_eq_none_iff.1 hl)
      | some x =>
        rw [hl] at hc
        cases hc
        exact ih glue _ hl
    rw [squeeze]
    split
    · split
      · exact ih glue
      · rename_i hkeep
        rw [Bool.or_eq_true, not_or, Bool.not_eq_true, Bool.not_eq_true] at hkeep
        refine hcons false σ.space fun hnil => ?_
        cases r with
        | nil => exact absurd hkeep.2 (by simp [gives])
        | cons e r =>
          rw [gives, Bool.or_eq_false_iff] at hkeep
          rw [squeeze_solid hkeep.2.1] at hnil
          cases hnil
    · rename_i hd
      exact hcons _ d fun _ => by simpa using hd

theorem squeeze_squeeze (glue follow : Bool) (a : List α) :
    σ.squeeze glue follow (σ.squeeze glue follow a) = σ.squeeze glue follow a := by
  induction a generalizing glue with
  | nil => rfl
  | cons c r ih =>
    rw [squeeze]
    split
    · split
      · exact ih glue
      · rename_i hkeep
        rw [Bool.or_eq_true, not_or, Bool.not_eq_true, Bool.not_eq_true] at hkeep
        rw [squeeze, if_pos σ.blank_space, hkeep.1, gives_squeeze hkeep.2, Bool.or_self, if_neg (by simp), ih]
    · rename_i hc
      rw [squeeze_solid (by simpa using hc), ih]

theorem squeeze_congr {τ : Spacing α} (hspace : σ.space = τ.space)
    (h : ∀ c ∈ a, σ.blank c = τ.blank c ∧ σ.mark c = τ.mark c) (glue follow : Bool) :
    σ.squeeze glue follow a = τ.squeeze glue follow a := by
  induction a generalizing glue with
  | nil => rfl
  | cons c r ih =>
    rw [List.forall_mem_cons] at h
    have hgives : σ.gives follow r = τ.gives follow r := by
      cases r with
      | nil => rfl
      | cons d r =>
        obtain ⟨hb, hm⟩ := h.2 d (List.mem_cons_self ..)
        rw [gives, gives, hb, hm]
    rw [squeeze, squeeze, h.1.1, h.1.2, hgives, hspace, ih h.2, ih h.2, ih h.2]

theorem mem_squeeze (hc : σ.blank c = false) (h : c ∈ a) (glue follow : Bool) :
    c ∈ σ.squeeze glue follow a := by
  induction a generalizing glue with
  | nil => exact absurd h List.not_mem_nil
  | cons d r ih =>
    rw [squeeze]
    rcases List.mem_cons.1 h with rfl | h
    · rw [if_neg (by simp [hc])]
      exact List.mem_cons_self ..
    · split
      · split
        · exact ih h _
        · exact List.mem_cons_of_mem _ (ih h _)
      · exact List.mem_cons_of_mem _ (ih h _)

theorem squeeze_subset (glue follow : Bool) (a : List α) :
    ∀ c ∈ σ.squeeze glue follow a, c = σ.space ∨ c ∈ a := by
  induction a generalizing glue with
  | nil => nofun
  | cons d r ih =>
    intro c hc
    rw [squeeze] at hc
    split at hc
    · split at hc
      · exact (ih _ c hc).imp_right (List.mem_cons_of_mem d)
      · rcases List.mem_cons.1 hc with rfl | hc
        · exact .inl rfl
        · exact (ih _ c hc).imp_right (List.mem_cons_of_mem d)
    · rcases List.mem_cons.1 hc with rfl | hc
      · exact .inr (List.mem_cons_self ..)
      · exact (ih _ c hc).imp_right (List.mem_cons_of_mem d)

end Spacing

end UtilityCss.Text
