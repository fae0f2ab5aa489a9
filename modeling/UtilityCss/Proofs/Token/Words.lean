import Mathlib.Data.List.Basic
import Mathlib.Tactic.Common
import UtilityCss.Token

namespace UtilityCss

def Words.Known (w : Words) (word : String) : Prop :=
  word ∈ w.breakpoints ∨ word ∈ w.modes ∨ word ∈ w.variants

instance (w : Words) (word : String) : Decidable (w.Known word) :=
  inferInstanceAs (Decidable (_ ∨ _))

namespace Token

variable (w : Words)

def Setting.none : Setting :=
  ⟨.none, .none, .none⟩

def Setting.under (outer inner : Setting) : Setting :=
  ⟨inner.breakpoint.or outer.breakpoint, inner.variant.or outer.variant, inner.mode.or outer.mode⟩

theorem Setting.under_none (s : Setting) : s.under none = s := rfl

theorem Setting.read?_under (outer s : Setting) (word : String) :
    (outer.under s).read? w word = (s.read? w word).map outer.under := by
  rw [read?, read?]
  split
  · rfl
  · split
    · rfl
    · split <;> rfl

theorem Setting.read?_eq_none_iff (s : Setting) (word : String) :
    s.read? w word = .none ↔ ¬ w.Known word := by
  rw [read?, Words.Known]
  simp only [List.contains_iff_mem]
  split
  · simp [*]
  · split
    · simp [*]
    · split <;> simp [*]

theorem Setting.variant_read? {w : Words} {word : String} (h : word ∉ w.variants) (s : Setting) :
    ((s.read? w word).getD s).variant = s.variant := by
  rw [read?]
  simp only [List.contains_iff_mem]
  split
  · rfl
  · split
    · rfl
    · rfl

theorem readWords_under (outer : Setting) (segments : List String) :
    ∀ s : Setting, readWords w (outer.under s) segments =
      (outer.under (readWords w s segments).1, (readWords w s segments).2) := by
  induction segments with
  | nil => exact fun s => rfl
  | cons word rest ih =>
    intro s
    cases rest with
    | nil => rfl
    | cons next rest =>
      rw [readWords, readWords, Setting.read?_under]
      cases s.read? w word with
      | none => rfl
      | some s' => exact ih s'

theorem readWords_of_not_known {word : String} (h : ¬ w.Known word) (s : Setting) (rest : List String) :
    readWords w s (word :: rest) = (s, word :: rest) := by
  cases rest with
  | nil => rfl
  | cons next rest => rw [readWords, (Setting.read?_eq_none_iff w s word).2 h]

theorem readWords_front (segments : List String) :
    ∀ s : Setting, ∃ front, segments = front ++ (readWords w s segments).2 ∧
      (front = [] → (readWords w s segments).1 = s) := by
  induction segments with
  | nil => exact fun s => ⟨[], rfl, fun _ => rfl⟩
  | cons word rest ih =>
    intro s
    cases rest with
    | nil => exact ⟨[], rfl, fun _ => rfl⟩
    | cons next rest =>
      rw [readWords]
      cases s.read? w word with
      | none => exact ⟨[], rfl, fun _ => rfl⟩
      | some s' =>
        obtain ⟨front, hf, _⟩ := ih s'
        refine ⟨word :: front, ?_, fun he => absurd he (List.cons_ne_nil _ _)⟩
        rw [List.cons_append, ← hf]

theorem readWords_ne_nil {segments : List String} (h : segments ≠ []) (s : Setting) :
    (readWords w s segments).2 ≠ [] := by
  induction segments generalizing s with
  | nil => exact absurd rfl h
  | cons word rest ih =>
    cases rest with
    | nil => exact h
    | cons next rest =>
      rw [readWords]
      cases s.read? w word with
      | none => exact List.cons_ne_nil _ _
      | some s' => exact ih (List.cons_ne_nil _ _) s'

structure Setting.Sound (s : Setting) : Prop where
  breakpoint : ∀ b, s.breakpoint = some b → b ∈ w.breakpoints
  mode : ∀ m, s.mode = some m → m ∈ w.modes
  variant : ∀ v, s.variant = some v → v ∈ w.variants

theorem Setting.sound_none : none.Sound w :=
  ⟨nofun, nofun, nofun⟩

theorem Setting.sound_read? {s s' : Setting} {word : String} (h : s.Sound w)
    (hr : s.read? w word = some s') : s'.Sound w := by
  rw [read?] at hr
  simp only [List.contains_iff_mem] at hr
  split at hr
  · rename_i hb
    cases hr
    exact ⟨fun b he => Option.some.inj he ▸ hb, h.mode, h.variant⟩
  · split at hr
    · rename_i hm
      cases hr
      exact ⟨h.breakpoint, fun m he => Option.some.inj he ▸ hm, h.variant⟩
    · split at hr
      · rename_i hv
        cases hr
        exact ⟨h.breakpoint, h.mode, fun v he => Option.some.inj he ▸ hv⟩
      · cases hr

theorem Setting.Sound.ne_empty {w : Words} {s : Setting} (h : s.Sound w)
    (hn : ∀ p, w.Known p → p ≠ "") :
    s.breakpoint ≠ some "" ∧ s.mode ≠ some "" ∧ s.variant ≠ some "" := by
  refine ⟨fun he => ?_, fun he => ?_, fun he => ?_⟩
  · exact hn "" (.inl (h.breakpoint _ he)) rfl
  · exact hn "" (.inr (.inl (h.mode _ he))) rfl
  · exact hn "" (.inr (.inr (h.variant _ he))) rfl

theorem sound_readWords (segments : List String) :
    ∀ s : Setting, s.Sound w → (readWords w s segments).1.Sound w := by
  induction segments with
  | nil => exact fun s h => h
  | cons word rest ih =>
    intro s h
    cases rest with
    | nil => exact h
    | cons next rest =>
      rw [readWords]
      cases hr : s.read? w word with
      | none => exact h
      | some s' => exact ih s' (Setting.sound_read? w h hr)

end Token

end UtilityCss
