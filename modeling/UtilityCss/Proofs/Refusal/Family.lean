import UtilityCss.Proofs.Refusal.Color
import UtilityCss.Proofs.Refusal.Value
import UtilityCss.Utility.Family

namespace UtilityCss.Family

open Text Number Outcome Value

variable (at_ : Surroundings) (key : String)

def Sound : Family → Bool
  | spacing group => group.lookup.all fun name => (Category.ofName? name).isSome
  | _ => true

/-- The keys that a family takes for a number or a colour and cannot read. -/
inductive Refuses : Family → Prop
  | columns (h : RefusedCount key) : Refuses gridColumns
  | span (h : RefusedCount key) : Refuses columnSpan
  | fraction {group : PropertyGroup} (literal : bracket? key = none) (token : themed at_ key group = .ok none)
      (keyword : group.keywords.get? key = none) (spacing : at_.theme.spacing.get? key = none)
      (h : RefusedFraction key) : Refuses (.spacing group)
  | text (size : at_.theme.fontSize.get? key = none) (h : at_.palette.Refuses key) : Refuses text
  | background (keyword : backgroundKeywords.get? key = none) (h : at_.palette.Refuses key) :
      Refuses background
  | border (h : at_.palette.Refuses key) : Refuses border
  | stop {stop : GradientStop} (h : at_.palette.Refuses key) : Refuses (gradientStop stop)
  | fade {color : String} (hc : at_.palette.resolve key = .ok (some color)) (h : Color.Cropped color) :
      Refuses (gradientStop .first)

variable {key}

theorem bracket?_of_refusedCount (h : RefusedCount key) : bracket? key = none :=
  bracket?_of_isDigitText h.1

theorem ne_of_refusedCount {word : String} (hw : isDigitText word.toList = false) (h : RefusedCount key) :
    key ≠ word := by
  rintro rfl
  rw [h.1] at hw
  cases hw

variable (key)

theorem fails_columns_iff : Fails (columnsValue key) ↔ RefusedCount key := by
  constructor
  · intro h
    rw [columnsValue] at h
    split at h
    · exact absurd h (not_fails_ok _)
    split at h
    · exact absurd h (not_fails_ok _)
    exact (fails_isPositive_iff key).1 ((fails_bind_total fun _ => not_fails_ok _).1 h)
  · intro h
    have hb := bracket?_of_refusedCount h
    have hn : key ≠ "none" := ne_of_refusedCount (by decide +kernel) h
    rw [columnsValue, hb]
    dsimp only
    rw [if_neg hn]
    exact (fails_bind_total fun _ => not_fails_ok _).2 ((fails_isPositive_iff key).2 h)

theorem fails_span_iff : Fails (spanValue key) ↔ RefusedCount key := by
  constructor
  · intro h
    rw [spanValue] at h
    split at h
    · exact absurd h (not_fails_ok _)
    exact (fails_isPositive_iff key).1 ((fails_bind_total fun _ => not_fails_ok _).1 h)
  · intro h
    have hn : key ≠ "full" := ne_of_refusedCount (by decide +kernel) h
    rw [spanValue]
    rw [if_neg hn]
    exact (fails_bind_total fun _ => not_fails_ok _).2 ((fails_isPositive_iff key).2 h)

theorem not_fails_themed {group : PropertyGroup} (h : (spacing group).Sound) :
    ¬ Fails (themed at_ key group) := by
  rw [themed]
  cases hl : group.lookup with
  | none => exact not_fails_ok _
  | some name =>
    rw [Sound, hl] at h
    obtain ⟨c, hc⟩ := Option.isSome_iff_exists.1 h
    dsimp only
    rw [hc]
    exact not_fails_ok _

theorem fails_spacing_iff {group : PropertyGroup} (hs : (spacing group).Sound) :
    Fails (spacingValue at_ key group) ↔ bracket? key = none ∧ themed at_ key group = .ok none ∧
      group.keywords.get? key = none ∧ at_.theme.spacing.get? key = none ∧ RefusedFraction key := by
  rw [spacingValue, ← fails_fraction?_iff]
  cases hb : bracket? key with
  | some v => simp [pure, Except.pure]
  | none =>
  cases ht : themed at_ key group with
  | error e => exact absurd (ht ▸ fails_error e) (not_fails_themed at_ key hs)
  | ok o =>
  cases o with
  | some v => simp [bind, Except.bind, pure, Except.pure]
  | none =>
  cases hk : group.keywords.get? key with
  | some v => simp [bind, Except.bind, pure, Except.pure]
  | none =>
  cases hsp : at_.theme.spacing.get? key with
  | some v => simp [bind, Except.bind, pure, Except.pure]
  | none =>
  cases hf : fraction? key with
  | error e => simp [bind, Except.bind]
  | ok o => cases o <;> simp [bind, Except.bind, pure, Except.pure]

variable {key}

theorem bracket?_of_palette_refuses {p : Palette String} (h : p.Refuses key) : bracket? key = none := by
  have hb := h.bare
  rw [bracket?, if_neg]
  simp only [Bool.and_eq_true, decide_eq_true_eq, not_and]
  intro hhead hlast
  exact hb ⟨hhead.2, hlast⟩

variable (key)

theorem fails_text_iff : Fails (resolveText at_ key) ↔
    at_.theme.fontSize.get? key = none ∧ at_.palette.Refuses key := by
  rw [resolveText]
  split
  · rename_i v hv
    refine iff_of_false (not_fails_ok _) fun h => ?_
    rw [bracket?_of_palette_refuses h.2] at hv
    cases hv
  · cases hs : at_.theme.fontSize.get? key with
    | some v =>
      refine iff_of_false (not_fails_ok _) ?_
      rintro ⟨h, _⟩
      cases h
    | none =>
      dsimp only
      rw [colored, fails_map, Palette.fails_resolve_iff]
      exact (and_iff_right rfl).symm

theorem fails_border_iff : Fails (resolveBorder at_ key) ↔ at_.palette.Refuses key := by
  rw [resolveBorder]
  cases hb : bracket? key with
  | some v =>
    refine iff_of_false ?_ fun h => ?_
    · by_cases hc : isColor v
      · simp [Option.filter, hc, pure, Except.pure]
      · simp only [Option.filter, hc, Option.isNone_some, Bool.false_eq_true, if_false]
        cases side? key with
        | some p => exact not_fails_ok _
        | none =>
          dsimp only
          split <;> exact not_fails_ok _
    · rw [bracket?_of_palette_refuses h] at hb
      cases hb
  | none =>
    rw [← Palette.fails_resolve_iff]
    cases at_.palette.resolve key with
    | error e => exact iff_of_true (fails_error _) (fails_error _)
    | ok o =>
      refine iff_of_false ?_ (not_fails_ok _)
      cases o with
      | some v => exact not_fails_ok _
      | none =>
        simp only [Option.filter, Option.isNone_none, if_true, bind, Except.bind]
        cases side? key with
        | some p => exact not_fails_ok _
        | none =>
          dsimp only
          split <;> exact not_fails_ok _

theorem fails_gradientStop_iff (stop : GradientStop) (negated : Bool) :
    Fails ((gradientStop stop).resolve at_ key negated) ↔ at_.palette.Refuses key ∨
      stop = .first ∧ ∃ color, at_.palette.resolve key = .ok (some color) ∧ Color.Cropped color := by
  rw [resolve, ← Palette.fails_resolve_iff]
  cases at_.palette.resolve key with
  | error e => exact iff_of_true (fails_error _) (.inl (fails_error _))
  | ok o =>
    cases o with
    | none => simp [bind, Except.bind, pure, Except.pure]
    | some color =>
      have hc := Color.fails_withAlpha_iff color (Binary64.zero false)
      rw [← fails_map (·.getD "transparent"), ← Color.transparentStop] at hc
      cases stop with
      | first =>
        simp only [bind, Except.bind, stopDeclarations, not_fails_ok, false_or, true_and, Except.ok.injEq,
          Option.some.injEq, exists_eq_left', ← hc]
        cases Color.transparentStop color with
        | error e => exact iff_of_true (fails_error _) (fails_error _)
        | ok clear => exact iff_of_false (not_fails_ok _) (not_fails_ok _)
      | middle => simp [bind, Except.bind, pure, Except.pure, stopDeclarations]
      | last => simp [bind, Except.bind, pure, Except.pure, stopDeclarations]

theorem fails_background_iff (negated : Bool) : Fails (background.resolve at_ key negated) ↔
    backgroundKeywords.get? key = none ∧ at_.palette.Refuses key := by
  rw [resolve]
  cases hk : backgroundKeywords.get? key with
  | some d => exact iff_of_false (not_fails_ok _) nofun
  | none =>
    dsimp only
    rw [colored, fails_map, Palette.fails_resolve_iff]
    exact (and_iff_right rfl).symm

theorem ne_empty_of_refusedFraction {key : String} (h : RefusedFraction key) : key ≠ "" := by
  rintro rfl
  obtain ⟨n, d, hs, _⟩ := h
  cases hs

theorem fails_resolve_iff {family : Family} (hs : family.Sound) (negated : Bool) :
    Fails (family.resolve at_ key negated) ↔ family.Refuses at_ key := by
  cases family with
  | spacing group =>
    have hi : (spacing group).Refuses at_ key ↔ Fails (spacingValue at_ key group) := by
      rw [fails_spacing_iff at_ key hs]
      constructor
      · rintro (_ | _ | ⟨hb, ht, hk, hsp, h⟩)
        exact ⟨hb, ht, hk, hsp, h⟩
      · rintro ⟨hb, ht, hk, hsp, h⟩
        exact .fraction hb ht hk hsp h
    rw [hi, resolve]
    split
    · rename_i he
      refine iff_of_false (not_fails_ok _) fun h => ?_
      have hf := ((fails_spacing_iff at_ key hs).1 h).2.2.2.2
      exact ne_empty_of_refusedFraction hf (String.isEmpty_iff.1 he)
    · exact fails_map _ _
  | gridColumns =>
    rw [resolve, fails_map, fails_columns_iff]
    exact ⟨.columns, fun | .columns h => h⟩
  | columnSpan =>
    rw [resolve, fails_map, fails_span_iff]
    exact ⟨.span, fun | .span h => h⟩
  | text =>
    rw [resolve, fails_text_iff]
    exact ⟨fun h => .text h.1 h.2, fun | .text hs h => ⟨hs, h⟩⟩
  | background =>
    rw [fails_background_iff]
    exact ⟨fun h => .background h.1 h.2, fun | .background hk h => ⟨hk, h⟩⟩
  | gradientStop stop =>
    rw [fails_gradientStop_iff]
    constructor
    · rintro (h | ⟨rfl, color, hc, h⟩)
      · exact .stop h
      · exact .fade hc h
    · rintro (_ | _ | _ | _ | _ | _ | h | ⟨hc, h⟩)
      · exact .inl h
      · exact .inr ⟨rfl, _, hc, h⟩
  | border =>
    rw [resolve, fails_border_iff]
    exact ⟨.border, fun | .border h => h⟩
  | spaceBetween | zIndex | opacity | aspectRatio | gradientDirection | radius | shadow | scale
  | backdropBlur | transition | timing | ease =>
    exact iff_of_false (not_fails_ok _) nofun

end UtilityCss.Family
