import Mathlib.Data.List.Basic
import Mathlib.Tactic.Common

namespace UtilityCss.Outcome

variable {ε α β : Type}

def Fails (x : Except ε α) : Prop :=
  ∃ e, x = .error e

@[simp] theorem not_fails_ok (a : α) : ¬ Fails (.ok a : Except ε α) := by
  rintro ⟨e, he⟩
  cases he

@[simp] theorem fails_error (e : ε) : Fails (.error e : Except ε α) :=
  ⟨e, rfl⟩

theorem not_fails_iff (x : Except ε α) : ¬ Fails x ↔ ∃ a, x = .ok a := by
  cases x <;> simp

@[simp] theorem fails_map (f : α → β) (x : Except ε α) : Fails (x.map f) ↔ Fails x := by
  cases x <;> simp [Except.map]

theorem fails_bind (x : Except ε α) (f : α → Except ε β) :
    Fails (x >>= f) ↔ Fails x ∨ ∃ a, x = .ok a ∧ Fails (f a) := by
  cases x <;> simp [bind, Except.bind]

theorem fails_bind_total {x : Except ε α} {f : α → Except ε β} (h : ∀ a, ¬ Fails (f a)) :
    Fails (x >>= f) ↔ Fails x := by
  rw [fails_bind]
  simp [h]

theorem fails_mapM (f : α → Except ε β) (xs : List α) : Fails (xs.mapM f) ↔ ∃ x ∈ xs, Fails (f x) := by
  induction xs with
  | nil => simp [pure, Except.pure]
  | cons x xs ih =>
    rw [List.mapM_cons, fails_bind]
    have htail (a : β) : Fails (do let as ← xs.mapM f; pure (a :: as)) ↔ ∃ y ∈ xs, Fails (f y) := by
      rw [fails_bind, ih]
      simp [pure, Except.pure]
    simp only [htail, List.mem_cons, exists_eq_or_imp]
    cases h : f x <;> simp

theorem fails_foldlM {γ : Type} {f : β → α → Except ε β} {g : α → Except ε γ}
    (h : ∀ b a, Fails (f b a) ↔ Fails (g a)) (xs : List α) (b : β) :
    Fails (xs.foldlM f b) ↔ ∃ x ∈ xs, Fails (g x) := by
  induction xs generalizing b with
  | nil => simp [pure, Except.pure]
  | cons x xs ih =>
    rw [List.foldlM_cons, fails_bind, h]
    simp only [ih, List.mem_cons, exists_eq_or_imp, ← h b x]
    cases f b x <;> simp

theorem toOption_eq_some_iff {x : Except ε α} {a : α} : x.toOption = some a ↔ x = .ok a := by
  cases x <;> simp [Except.toOption]

theorem mapM_congr {m : Type → Type} [Monad m] [LawfulMonad m] {f g : α → m β} {xs : List α}
    (h : ∀ x ∈ xs, f x = g x) : xs.mapM f = xs.mapM g := by
  induction xs with
  | nil => rfl
  | cons x xs ih =>
    have hx : f x = g x := h x (by simp)
    have hxs : xs.mapM f = xs.mapM g := ih fun y hy => h y (List.mem_cons_of_mem x hy)
    rw [List.mapM_cons, List.mapM_cons, hx, hxs]

theorem mapM_single (f : α → Except ε β) (x : α) : [x].mapM f = (f x).map fun y => [y] := by
  rw [List.mapM_cons, List.mapM_nil]
  cases f x <;> rfl

theorem mapM_map_result {γ : Type} (f : α → Except ε β) (g : β → γ) (xs : List α) :
    (xs.mapM fun x => (f x).map g) = (xs.mapM f).map (List.map g) := by
  induction xs with
  | nil => rfl
  | cons x xs ih =>
    rw [List.mapM_cons, List.mapM_cons, ih]
    cases f x with
    | error e => rfl
    | ok a => cases xs.mapM f <;> rfl

def Ensures (P : α → Prop) (x : Except ε α) : Prop :=
  ∀ a, x = .ok a → P a

@[simp] theorem ensures_ok {P : α → Prop} (a : α) : Ensures P (.ok a : Except ε α) ↔ P a := by
  simp [Ensures]

@[simp] theorem ensures_pure {P : α → Prop} (a : α) : Ensures P (pure a : Except ε α) ↔ P a :=
  ensures_ok a

@[simp] theorem ensures_error {P : α → Prop} (e : ε) : Ensures P (.error e : Except ε α) := by
  simp [Ensures]

@[simp] theorem ensures_map {P : β → Prop} (f : α → β) (x : Except ε α) :
    Ensures P (x.map f) ↔ Ensures (fun a => P (f a)) x := by
  cases x <;> simp [Except.map]

theorem ensures_bind {P : β → Prop} (x : Except ε α) (f : α → Except ε β) :
    Ensures P (x >>= f) ↔ Ensures (fun a => Ensures P (f a)) x := by
  cases x <;> simp [bind, Except.bind]

theorem ensures_mapM {P : β → Prop} {f : α → Except ε β} {xs : List α}
    (h : ∀ x ∈ xs, Ensures P (f x)) : Ensures (fun ys => ∀ y ∈ ys, P y) (xs.mapM f) := by
  induction xs with
  | nil => simp
  | cons x xs ih =>
    rw [List.mapM_cons, ensures_bind]
    intro y hy
    rw [ensures_bind]
    intro ys hys
    have hx : P y := h x (by simp) y hy
    have hxs : ∀ y ∈ ys, P y := ih (fun z hz => h z (List.mem_cons_of_mem x hz)) ys hys
    simpa using ⟨hx, hxs⟩

inductive Both (R : α → β → Prop) : Except ε α → Except ε β → Prop
  | error (e : ε) : Both R (.error e) (.error e)
  | ok {a : α} {b : β} (h : R a b) : Both R (.ok a) (.ok b)

theorem Both.mono {R S : α → β → Prop} {x : Except ε α} {y : Except ε β} (h : Both R x y)
    (hs : ∀ a b, R a b → S a b) : Both S x y := by
  cases h with
  | error e => exact .error e
  | ok hr => exact .ok (hs _ _ hr)

theorem both_self {R : α → α → Prop} (h : ∀ a, R a a) (x : Except ε α) : Both R x x := by
  cases x with
  | error e => exact .error e
  | ok a => exact .ok (h a)

theorem both_map {γ δ : Type} {R : γ → δ → Prop} {f : α → γ} {g : α → δ} {x : Except ε α}
    (h : ∀ a, x = .ok a → R (f a) (g a)) : Both R (x.map f) (x.map g) := by
  cases x with
  | error e => exact .error e
  | ok a => exact .ok (h a rfl)

end UtilityCss.Outcome
