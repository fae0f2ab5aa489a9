import Mathlib.Data.List.TakeWhile
import UtilityCss.Proofs.Number.Numeral
import UtilityCss.Proofs.Number.Plain
import UtilityCss.Proofs.Outcome
import UtilityCss.Proofs.Table
import UtilityCss.Utility.Family

namespace UtilityCss

open Text Number Value Outcome Stylesheet

theorem Color.plain_withAlpha {color v : String} {alpha : Binary64}
    (h : withAlpha color alpha = .ok (some v)) : Plain v.toList := by
  rw [withAlpha] at h
  split at h <;> cases h <;> exact Plain.rgba _ _ _ _

theorem Color.plain_transparentStop (color : String) :
    Ensures (fun v => Plain v.toList) (transparentStop color) := by
  rw [transparentStop, ensures_map]
  intro o ho
  cases o with
  | none => exact (by decide : Plain "transparent".toList)
  | some v => exact plain_withAlpha ho

theorem Palette.resolve_cases {p : Palette String} {key v : String} (h : p.resolve key = .ok (some v)) :
    bracket? key = some v ∨ v ∈ p.values ∨ Plain v.toList := by
  rw [resolve] at h
  split at h
  · cases h
  · split at h
    · rename_i hb
      left
      simp only [Except.ok.injEq] at h
      split at h
      · cases h
      · rename_i hne
        have hlen : 2 < key.toList.length := by
          by_contra hle
          apply hne
          have hdrop : ((key.toList.drop 1).dropLast).length = 0 := by simp; omega
          rw [List.eq_nil_of_length_eq_zero hdrop]
          rfl
        rw [← h, bracket?, if_pos]
        simpa [hlen] using hb
    · split at h
      · right
        left
        have he := (p.get?_eq_some_iff key v).1 (Except.ok.inj h)
        exact List.mem_map.2 ⟨_, he, rfl⟩
      · split at h
        · cases h
        · split at h
          · right
            right
            exact Color.plain_withAlpha h
          · cases h

namespace Family

def literals (key : String) : Family → List String
  | border => (bracket? key).toList ++ ((side? key).bind fun p => bracket? p.2).toList
  | columnSpan | gradientDirection | transition => []
  | _ => (bracket? key).toList

def texts (at_ : Surroundings) : Family → List String
  | spacing group => group.properties ++ group.keywords.values ++ at_.theme.spacing.values ++
      (group.lookup.bind Category.ofName?).toList.flatMap fun c =>
        (at_.theme.category c).values.map Color.toText
  | spaceBetween property => property :: at_.theme.spacing.values
  | text => at_.theme.fontSize.values ++ at_.palette.values
  | background | gradientStop _ | border => at_.palette.values
  | radius corners => corners ++ at_.theme.borderRadius.values
  | shadow => at_.theme.shadows.values
  | timing property => [property]
  | _ => []

structure Closed (P : String → Prop) (at_ : Surroundings) (key : String) (family : Family) : Prop where
  append : ∀ s t, P s → P t → P (s ++ t)
  plain : ∀ s : String, Plain s.toList → P s
  length : Inert key.toList → P key
  literal : ∀ v ∈ family.literals key, P v
  texts : ∀ t ∈ family.texts at_, P t

structure Made (P : String → Prop) (s : Resolution) : Prop where
  selector : s.selector = none ∨ s.selector = some laterChildren
  declarations : ∀ d ∈ s.declarations, P d.1 ∧ P d.2

variable {P : String → Prop} {at_ : Surroundings} {key : String} {family : Family}

def AllMade (P : String → Prop) (o : Option Resolution) : Prop :=
  ∀ s ∈ o, Made P s

theorem allMade_none : AllMade P none :=
  nofun

theorem allMade_some {s : Resolution} (h : Made P s) : AllMade P (some s) := by
  rintro _ ⟨⟩
  exact h

theorem made_single {property v : String} (hp : P property) (hv : P v) (negatable : Bool) :
    Made P ⟨[(property, v)], none, negatable⟩ :=
  ⟨.inl rfl, by simpa using ⟨hp, hv⟩⟩

theorem allMade_one {property : String} (negatable : Bool) (hp : P property) {value : Option String}
    (hv : ∀ v ∈ value, P v) : AllMade P (one property negatable value) := by
  intro s hs
  obtain ⟨v, hv', rfl⟩ := Option.map_eq_some_iff.1 hs
  exact made_single hp (hv v hv') negatable

theorem made_shared {properties : List String} {v : String} (hp : ∀ p ∈ properties, P p) (hv : P v)
    (negatable : Bool) : Made P ⟨properties.map (·, v), none, negatable⟩ := by
  refine ⟨.inl rfl, fun d hd => ?_⟩
  obtain ⟨p, hp', rfl⟩ := List.mem_map.1 hd
  exact ⟨hp p hp', hv⟩

namespace Closed

variable (h : Closed P at_ key family)

include h

theorem bracket (hl : (bracket? key).toList ⊆ family.literals key) : ∀ v ∈ bracket? key, P v :=
  fun v hv => h.literal v (hl (Option.mem_toList.2 hv))

theorem fixed {t : Table String String} (ht : ∀ e ∈ t.entries, Plain e.2.toList) :
    ∀ v ∈ t.get? key, P v := by
  intro v hv
  exact h.plain v (ht _ ((t.get?_eq_some_iff key v).1 hv))

theorem table {t : Table String String} (ht : t.values ⊆ family.texts at_) (k : String) :
    ∀ v ∈ t.get? k, P v := by
  intro v hv
  exact h.texts v (ht (List.mem_map.2 ⟨_, (t.get?_eq_some_iff k v).1 hv, rfl⟩))

theorem palette (hl : (bracket? key).toList ⊆ family.literals key) (ht : at_.palette.values ⊆ family.texts at_) :
    Ensures (fun o => ∀ v ∈ o, P v) (at_.palette.resolve key) := by
  rintro o ho v rfl
  rcases Palette.resolve_cases ho with hb | hv | hp
  · exact h.bracket hl v hb
  · exact h.texts v (ht hv)
  · exact h.plain v hp

theorem number (x : Binary64) : P (numberText x) :=
  h.plain _ (Plain.numberText x)

theorem concat {s : String} (hs : Plain s.toList) {t : String} (ht : P t) : P (s ++ t) :=
  h.append s t (h.plain s hs) ht

theorem wrapped {s t v : String} (hs : Plain s.toList) (ht : Plain t.toList) (hv : P v) :
    P (s ++ v ++ t) :=
  h.append _ t (h.concat hs hv) (h.plain t ht)

end Closed

theorem forall_mem_some {v : String} (hv : P v) : ∀ w ∈ some v, P w :=
  fun _ hw => Option.some.inj hw ▸ hv

theorem forall_mem_or {a b : Option String} (ha : ∀ v ∈ a, P v) (hb : ∀ v ∈ b, P v) :
    ∀ v ∈ a.or b, P v := by
  cases a with
  | none => exact hb
  | some w => exact ha

theorem plain_fraction (key : String) : Ensures (fun o => ∀ v ∈ o, Plain v.toList) (fraction? key) := by
  rw [fraction?]
  split
  · exact (ensures_ok _).2 nofun
  · rw [ensures_bind]
    intro n _
    rw [ensures_bind]
    intro d _
    split
    · exact (ensures_pure _).2 nofun
    · rw [ensures_bind]
      intro s hs
      rw [ensures_pure]
      rintro _ ⟨⟩
      exact Plain.percent hs

theorem plain_of_numeral {number : List Char} (h : Numeral number) : Plain number := by
  intro c hc
  rcases h.chars c hc with hd | rfl
  · exact Plain.decimals (List.forall_mem_singleton.2 hd) c (List.mem_singleton.2 rfl)
  · decide

theorem inert_of_dropFinalNewline {cs : List Char} (h : Inert (dropFinalNewline cs)) : Inert cs := by
  have hendings : ∀ ending ∈ [[], ['\n']], Inert ending := by decide
  obtain ⟨ending, he, hcs⟩ := exists_ending cs
  rw [hcs]
  exact List.forall_mem_append.2 ⟨h, hendings ending he⟩

theorem inert_of_isLength (h : isLength key = true) : Inert key.toList := by
  have hunits : ∀ u ∈ lengthUnits, Plain u.toList := by decide
  rw [isLength] at h
  split at h
  · rename_i n unit hm
    obtain ⟨⟨n', u⟩, hn, he⟩ := Option.map_eq_some_iff.1 hm
    cases he
    obtain ⟨hcs, hnumber⟩ := numeral?_eq_some hn
    have hu := hunits _ (List.contains_iff_mem.1 h)
    rw [String.toList_ofList] at hu
    apply inert_of_dropFinalNewline
    rw [hcs]
    exact ((plain_of_numeral hnumber).append hu).inert
  · cases h

theorem themed_values {group : PropertyGroup} (h : Closed P at_ key (spacing group)) :
    Ensures (fun o => ∀ v ∈ o, P v) (themed at_ key group) := by
  rw [themed]
  split
  · exact (ensures_ok _).2 nofun
  · rename_i name hn
    split
    · rename_i c hc
      rw [ensures_ok]
      intro v hv
      obtain ⟨color, hg, rfl⟩ := Option.map_eq_some_iff.1 hv
      have hm : color ∈ (at_.theme.category c).values :=
        List.mem_map.2 ⟨_, (Table.get?_eq_some_iff _ _ _).1 hg, rfl⟩
      have htext : color.toText ∈ (group.lookup.bind Category.ofName?).toList.flatMap fun c =>
          (at_.theme.category c).values.map Color.toText := by
        rw [hn, Option.bind_some, hc, Option.toList_some, List.flatMap_singleton]
        exact List.mem_map_of_mem hm
      exact h.texts _ (List.mem_append_right _ htext)
    · exact ensures_error _

theorem spacing_values {group : PropertyGroup} (h : Closed P at_ key (spacing group)) :
    Ensures (fun o => ∀ v ∈ o, P v) (spacingValue at_ key group) := by
  have hb := h.bracket (List.Subset.refl _)
  have hk := h.table (t := group.keywords) (fun v hv => by simp [texts, hv]) key
  have hs := h.table (t := at_.theme.spacing) (fun v hv => by simp [texts, hv]) key
  rw [spacingValue]
  cases hbr : bracket? key with
  | some v => exact (ensures_pure _).2 (hbr ▸ hb)
  | none =>
  dsimp only
  rw [ensures_bind]
  intro o ho
  have hto := themed_values h o ho
  cases o with
  | some v => exact (ensures_pure _).2 hto
  | none =>
  cases hkw : group.keywords.get? key with
  | some v => exact (ensures_pure _).2 (hkw ▸ hk)
  | none =>
  cases hsp : at_.theme.spacing.get? key with
  | some v => exact (ensures_pure _).2 (hsp ▸ hs)
  | none =>
  dsimp only
  rw [ensures_bind]
  intro o ho
  cases o with
  | some v =>
    refine (ensures_pure _).2 fun w hw => h.plain w (plain_fraction key _ ho w hw)
  | none =>
    rw [ensures_pure]
    split
    · rename_i hl
      rintro _ ⟨⟩
      rw [Bool.or_eq_true, decide_eq_true_eq] at hl
      rcases hl with rfl | hl
      · exact h.plain _ (by decide)
      · exact h.length (inert_of_isLength hl)
    · exact nofun

theorem opacity_values (h : Closed P at_ key opacity) : ∀ v ∈ opacityValue key, P v := by
  have hb := h.bracket (List.Subset.refl _)
  rw [opacityValue]
  split
  · rename_i v hv
    rw [← hv]
    exact hb
  · split
    · exact forall_mem_some (h.number _)
    · rintro _ ⟨⟩

theorem plain_of_isPositive (h : isPositive key = .ok true) : Plain key.toList := by
  rw [isPositive] at h
  split at h
  · rename_i hd
    exact Plain.digitText hd
  · cases h

theorem columns_values (h : Closed P at_ key gridColumns) :
    Ensures (fun o => ∀ v ∈ o, P v) (columnsValue key) := by
  have hb := h.bracket (List.Subset.refl _)
  rw [columnsValue]
  cases hbr : bracket? key with
  | some v => exact (ensures_pure _).2 (hbr ▸ hb)
  | none =>
  dsimp only
  split
  · rw [ensures_pure]
    rintro _ ⟨⟩
    exact h.plain _ (by decide)
  · rw [ensures_bind]
    intro b hp
    rw [ensures_pure]
    split
    · rename_i ht
      subst ht
      rintro _ ⟨⟩
      exact h.wrapped (by decide) (by decide) (h.plain _ (plain_of_isPositive hp))
    · exact nofun

theorem span_values (h : Closed P at_ key columnSpan) :
    Ensures (fun o => ∀ v ∈ o, P v) (spanValue key) := by
  rw [spanValue]
  split
  · rw [ensures_pure]
    rintro _ ⟨⟩
    exact h.plain _ (by decide)
  · rw [ensures_bind]
    intro b hp
    rw [ensures_pure]
    split
    · rename_i ht
      subst ht
      have hk : P key := h.plain _ (plain_of_isPositive hp)
      rintro _ ⟨⟩
      exact h.append _ _ (h.wrapped (by decide) (by decide) hk) hk
    · exact nofun

theorem radius_values {corners : List String} (h : Closed P at_ key (radius corners)) :
    ∀ v ∈ radiusValue at_ key, P v := by
  have hb := h.bracket (List.Subset.refl _)
  have ht := h.table (t := at_.theme.borderRadius) (List.subset_append_right _ _)
  rw [radiusValue]
  split
  · rintro _ ⟨⟩
    cases hd : at_.theme.borderRadius.get? bareKey with
    | none => exact h.plain _ (by decide)
    | some v => exact ht bareKey v hd
  · split
    · rename_i v hv
      rw [← hv]
      exact hb
    · split
      · rename_i v hv
        rw [← hv]
        exact ht key
      · split
        · have hv : P (numberText ((Binary64.ofNumeral key.toList).scale (1, 8)) ++ "rem") :=
            h.append _ _ (h.number _) (h.plain "rem" (by decide))
          exact forall_mem_some hv
        · exact nofun

theorem shadow_values (h : Closed P at_ key shadow) : ∀ v ∈ shadowValue at_ key, P v := by
  have hb := h.bracket (List.Subset.refl _)
  have ht := h.table (t := at_.theme.shadows) (List.Subset.refl _)
  rw [shadowValue]
  split
  · split
    · rename_i v hv
      rintro _ ⟨⟩
      exact ht bareKey v (Option.filter_eq_some_iff.1 hv).1
    · exact ht bareShadow
  · exact forall_mem_or hb (ht key)

theorem scale_factors (h : Closed P at_ key scale) : ∀ v ∈ scaleFactor key, P v := by
  have hb := h.bracket (List.Subset.refl _)
  rw [scaleFactor]
  split
  · rename_i v hv
    rw [← hv]
    exact hb
  · split
    · exact forall_mem_some (h.number _)
    · rintro _ ⟨⟩

theorem negate_closed (h : Closed P at_ key family) {v : String} (hv : P v) : P (negate v) := by
  rw [negate]
  split
  · split
    · exact h.concat (by decide) hv
    · exact hv
  · exact hv

theorem duration_values {property : String} (h : Closed P at_ key (timing property)) :
    ∀ v ∈ durationValue key, P v := by
  have hb := h.bracket (List.Subset.refl _)
  rw [durationValue]
  split
  · rename_i v hv
    rw [← hv]
    exact hb
  · split
    · rename_i hd
      rintro _ ⟨⟩
      exact h.append _ _ (h.plain _ (Plain.digitText hd)) (h.plain _ (by decide))
    · rintro _ ⟨⟩

theorem index_values (h : Closed P at_ key zIndex) : ∀ v ∈ indexValue key, P v := by
  have hb := h.bracket (List.Subset.refl _)
  rw [indexValue]
  split
  · rename_i v hv
    rw [← hv]
    exact hb
  · split
    · rename_i hk
      rintro _ ⟨⟩
      rw [Bool.or_eq_true, decide_eq_true_eq] at hk
      rcases hk with rfl | hd
      · exact h.plain _ (by decide)
      · exact h.plain _ (Plain.digitText hd)
    · rintro _ ⟨⟩

theorem border_widths (h : Closed P at_ key border) : ∀ v ∈ borderWidth? key, P v := by
  have hb := h.bracket (List.subset_append_left _ _)
  rw [borderWidth?]
  split
  · rename_i v hv
    rw [← hv]
    exact hb
  · split
    · rename_i hd
      rintro _ ⟨⟩
      exact h.append _ _ (h.plain _ (Plain.digitText hd)) (h.plain _ (by decide))
    · rintro _ ⟨⟩

theorem side_widths (h : Closed P at_ key border) {properties : List String} {width : String}
    (hs : side? key = some (properties, width)) : ∀ v ∈ sideWidth? width, P v := by
  have hb : ∀ v, bracket? width = some v → P v := by
    intro v hv
    apply h.literal
    simp [literals, hs, hv]
  rw [sideWidth?]
  split
  · rintro _ ⟨⟩
    exact h.plain _ (by decide)
  · rw [borderWidth?]
    split
    · rename_i v hv
      rintro _ ⟨⟩
      exact hb v hv
    · split
      · rename_i hd
        rintro _ ⟨⟩
        exact h.append _ _ (h.plain _ (Plain.digitText hd)) (h.plain _ (by decide))
      · rintro _ ⟨⟩

theorem made_text (h : Closed P at_ key text) : Ensures (AllMade P) (resolveText at_ key) := by
  have hb := h.bracket (List.Subset.refl _)
  have ht := h.table (t := at_.theme.fontSize) (List.subset_append_left _ _) key
  have hp := h.palette (List.Subset.refl _) (List.subset_append_right _ _)
  have hsize {v : String} (hv : P v) : AllMade P (some (.signed [("font-size", v)])) :=
    allMade_some (made_single (h.plain _ (by decide)) hv true)
  rw [resolveText]
  split
  · rename_i v hv
    exact (ensures_ok _).2 (hsize (hb v (Option.filter_eq_some_iff.1 hv).1))
  · split
    · rename_i v hv
      exact (ensures_ok _).2 (hsize (ht v hv))
    · rw [colored, ensures_map]
      exact fun o ho => allMade_one false (h.plain _ (by decide)) (hp o ho)

theorem made_background (h : Closed P at_ key background) (negated : Bool) :
    Ensures (AllMade P) (background.resolve at_ key negated) := by
  have hp := h.palette (List.Subset.refl _) (List.Subset.refl _)
  rw [resolve]
  split
  · rename_i d hd
    have hpairs : ∀ e ∈ backgroundKeywords.entries, Plain e.2.1.toList ∧ Plain e.2.2.toList := by decide
    have hplain := hpairs _ ((Table.get?_eq_some_iff _ _ _).1 hd)
    exact (ensures_ok _).2 (allMade_some (made_single (h.plain _ hplain.1) (h.plain _ hplain.2) false))
  · rw [colored, ensures_map]
    exact fun o ho => allMade_one false (h.plain _ (by decide)) (hp o ho)

theorem made_gradientStop {stop : GradientStop} (h : Closed P at_ key (gradientStop stop)) (negated : Bool) :
    Ensures (AllMade P) ((gradientStop stop).resolve at_ key negated) := by
  have hp := h.palette (List.Subset.refl _) (List.Subset.refl _)
  rw [resolve, ensures_bind]
  intro o ho
  cases o with
  | none => exact (ensures_pure _).2 allMade_none
  | some color =>
    have hc : P color := hp _ ho color rfl
    dsimp only
    rw [ensures_bind]
    intro ds hds
    refine (ensures_pure _).2 (allMade_some ?_)
    cases stop with
    | first =>
      cases hclear : Color.transparentStop color with
      | error e => simp [stopDeclarations, hclear, bind, Except.bind] at hds
      | ok clear =>
        have hcl : P clear := h.plain _ (Color.plain_transparentStop color clear hclear)
        simp only [stopDeclarations, hclear, bind, Except.bind, pure, Except.pure, Except.ok.injEq] at hds
        subst hds
        refine ⟨.inl rfl, ?_⟩
        simp only [Resolution.unsigned, List.forall_mem_cons, List.not_mem_nil, false_imp_iff, implies_true,
          and_true]
        exact ⟨⟨h.plain _ (by decide), hc⟩, ⟨h.plain _ (by decide), hcl⟩, h.plain _ (by decide),
          h.plain _ (by decide)⟩
    | middle =>
      cases hds
      exact made_single (h.plain _ (by decide)) (h.wrapped (by decide) (by decide) hc) false
    | last =>
      cases hds
      exact made_single (h.plain _ (by decide)) hc false

theorem made_border (h : Closed P at_ key border) : Ensures (AllMade P) (resolveBorder at_ key) := by
  have hb := h.bracket (List.subset_append_left _ _)
  have hp := h.palette (List.subset_append_left _ _) (List.Subset.refl _)
  have hcolor {v : String} (hv : P v) : AllMade P (some (.unsigned [("border-color", v)])) :=
    allMade_some (made_single (h.plain _ (by decide)) hv false)
  have hside {properties : List String} {width : String} (hs : side? key = some (properties, width)) :
      AllMade P ((sideWidth? width).map fun v => .unsigned (properties.map (·, v))) := by
    have hsides : ∀ e ∈ borderSides.entries, ∀ p ∈ e.2, Plain p.toList := by decide
    have hproperties : ∀ p ∈ properties, P p := by
      rw [side?] at hs
      obtain ⟨found, hg, he⟩ := Option.map_eq_some_iff.1 hs
      cases he
      exact fun p hp => h.plain p (hsides _ ((Table.get?_eq_some_iff _ _ _).1 hg) p hp)
    intro s hs'
    obtain ⟨v, hv, rfl⟩ := Option.map_eq_some_iff.1 hs'
    exact made_shared hproperties (side_widths h hs v hv) false
  have hstyle (hk : borderStyles.contains key = true) :
      AllMade P (some (.unsigned [("border-style", key)])) := by
    have hstyles : ∀ w ∈ borderStyles, Plain w.toList := by decide
    have hkey : P key := h.plain key (hstyles key (List.contains_iff_mem.1 hk))
    exact allMade_some (made_single (h.plain _ (by decide)) hkey false)
  have hwhole : AllMade P (one "border-width" false (borderWidth? key)) :=
    allMade_one false (h.plain _ (by decide)) (border_widths h)
  rw [resolveBorder]
  cases hbr : bracket? key with
  | some v =>
    by_cases hc : isColor v = true
    · simp only [Option.filter, hc, if_true]
      exact (ensures_pure _).2 (hcolor (hb v hbr))
    · simp only [Option.filter, hc, Option.isNone_some, Bool.false_eq_true, if_false]
      split
      · rename_i hs
        exact (ensures_pure _).2 (hside hs)
      · split
        · rename_i hk
          exact (ensures_pure _).2 (hstyle hk)
        · exact (ensures_pure _).2 hwhole
  | none =>
    simp only [Option.filter, Option.isNone_none, if_true]
    rw [ensures_bind]
    intro o ho
    split
    · rename_i v
      exact (ensures_pure _).2 (hcolor (hp _ ho v rfl))
    · split
      · rename_i hs
        exact (ensures_pure _).2 (hside hs)
      · split
        · rename_i hk
          exact (ensures_pure _).2 (hstyle hk)
        · exact (ensures_pure _).2 hwhole

theorem made_transition (h : Closed P at_ key transition) : AllMade P (resolveTransition key) := by
  have ht := h.fixed (t := transitionProperties) (by decide)
  rw [resolveTransition]
  split
  · exact allMade_some (made_single (h.plain _ (by decide)) (h.plain _ (by decide)) false)
  · intro s hs
    obtain ⟨v, hv, rfl⟩ := Option.map_eq_some_iff.1 hs
    refine ⟨.inl rfl, ?_⟩
    simp only [Resolution.unsigned, List.forall_mem_cons, List.not_mem_nil, false_imp_iff, implies_true,
      and_true]
    exact ⟨⟨h.plain _ (by decide), ht v hv⟩, ⟨h.plain _ (by decide), h.plain _ (by decide)⟩,
      h.plain _ (by decide), h.plain _ (by decide)⟩

theorem made_resolve (h : Closed P at_ key family) (negated : Bool) :
    Ensures (AllMade P) (family.resolve at_ key negated) := by
  cases family with
  | text => exact made_text h
  | background => exact made_background h negated
  | gradientStop stop => exact made_gradientStop h negated
  | border => exact made_border h
  | spacing group =>
    have hg : ∀ p ∈ group.properties, P p := fun p hp => h.texts p (by simp [texts, hp])
    rw [resolve]
    split
    · exact (ensures_ok _).2 allMade_none
    · rw [ensures_map]
      intro o ho s hs
      obtain ⟨v, hv, rfl⟩ := Option.map_eq_some_iff.1 hs
      exact made_shared hg (spacing_values h o ho v hv) true
  | spaceBetween property =>
    have hb := h.bracket (List.Subset.refl _)
    have ht := h.table (t := at_.theme.spacing) (List.subset_cons_self _ _) key
    have hprop : P property := h.texts _ (List.mem_cons_self ..)
    rw [resolve, ensures_ok]
    intro s hs
    obtain ⟨v, hv, rfl⟩ := Option.map_eq_some_iff.1 hs
    exact ⟨.inr rfl, by simpa using ⟨hprop, forall_mem_or hb ht v hv⟩⟩
  | zIndex => exact (ensures_ok _).2 (allMade_one true (h.plain _ (by decide)) (index_values h))
  | opacity => exact (ensures_ok _).2 (allMade_one false (h.plain _ (by decide)) (opacity_values h))
  | aspectRatio =>
    have hb := h.bracket (List.Subset.refl _)
    have ht := h.fixed (t := aspectRatios) (by decide)
    exact (ensures_ok _).2 (allMade_one false (h.plain _ (by decide)) (forall_mem_or hb ht))
  | ease =>
    have hb := h.bracket (List.Subset.refl _)
    have ht := h.fixed (t := timingFunctions) (by decide)
    exact (ensures_ok _).2 (allMade_one false (h.plain _ (by decide)) (forall_mem_or hb ht))
  | shadow => exact (ensures_ok _).2 (allMade_one false (h.plain _ (by decide)) (shadow_values h))
  | timing property =>
    have hprop : P property := h.texts _ (List.mem_singleton.2 rfl)
    exact (ensures_ok _).2 (allMade_one false hprop (duration_values h))
  | gridColumns =>
    rw [resolve, ensures_map]
    exact fun o ho => allMade_one false (h.plain _ (by decide)) (columns_values h o ho)
  | columnSpan =>
    rw [resolve, ensures_map]
    exact fun o ho => allMade_one false (h.plain _ (by decide)) (span_values h o ho)
  | radius corners =>
    have hc : ∀ p ∈ corners, P p := fun p hp => h.texts p (List.mem_append_left _ hp)
    rw [resolve, ensures_ok]
    intro s hs
    obtain ⟨v, hv, rfl⟩ := Option.map_eq_some_iff.1 hs
    exact made_shared hc (radius_values h v hv) false
  | scale =>
    rw [resolve, ensures_ok]
    intro s hs
    obtain ⟨f, hf, rfl⟩ := Option.map_eq_some_iff.1 hs
    have hfactor : P (if negated then negate f else f) := by
      split
      · exact negate_closed h (scale_factors h f hf)
      · exact scale_factors h f hf
    exact made_single (h.plain _ (by decide)) (h.wrapped (by decide) (by decide) hfactor) false
  | backdropBlur =>
    have hb := h.bracket (List.Subset.refl _)
    have ht := h.fixed (t := blurSizes) (by decide)
    rw [resolve, ensures_ok]
    intro s hs
    obtain ⟨v, hv, rfl⟩ := Option.map_eq_some_iff.1 hs
    have hblur : P ("blur(" ++ v ++ ")") :=
      h.wrapped (by decide) (by decide) (forall_mem_or hb ht v hv)
    refine ⟨.inl rfl, ?_⟩
    simp only [blur, Resolution.unsigned, List.forall_mem_cons, List.not_mem_nil, false_imp_iff,
      implies_true, and_true]
    exact ⟨⟨h.plain _ (by decide), hblur⟩, h.plain _ (by decide), hblur⟩
  | gradientDirection =>
    have ht := h.fixed (t := gradientDirections) (by decide)
    rw [resolve, ensures_ok]
    intro s hs
    obtain ⟨v, hv, rfl⟩ := Option.map_eq_some_iff.1 hs
    have hgradient : P ("linear-gradient(" ++ v ++ ", " ++ gradientStops ++ ")") :=
      h.append _ _ (h.append _ _ (h.wrapped (by decide) (by decide) (ht v hv)) (h.plain _ (by decide)))
        (h.plain _ (by decide))
    exact made_single (h.plain _ (by decide)) hgradient false
  | transition => exact (ensures_ok _).2 (made_transition h)

end Family

end UtilityCss
