import UtilityCss.Proofs.Outcome
import UtilityCss.Proofs.Table
import UtilityCss.Utility.Family

namespace UtilityCss.Family

open Value Outcome

def properties : Family → List String
  | spacing group => group.properties
  | spaceBetween property | timing property => [property]
  | radius corners => corners
  | zIndex => ["z-index"]
  | opacity => ["opacity"]
  | aspectRatio => ["aspect-ratio"]
  | gridColumns => ["grid-template-columns"]
  | columnSpan => ["grid-column"]
  | text => ["font-size", "color"]
  | background => "background-color" :: backgroundKeywords.values.map Prod.fst
  | gradientDirection => ["background-image"]
  | gradientStop _ => ["--gradient-from", "--gradient-to", "--gradient-stops"]
  | border => ["border-color", "border-style", "border-width"] ++ borderSides.values.flatten
  | shadow => ["box-shadow"]
  | scale => ["transform"]
  | backdropBlur => ["backdrop-filter", "-webkit-backdrop-filter"]
  | transition => ["transition-property", "transition-timing-function", "transition-duration"]
  | ease => ["transition-timing-function"]

def Sets (ps : List String) (o : Option Resolution) : Prop :=
  ∀ s ∈ o, ∀ d ∈ s.declarations, d.1 ∈ ps

variable {ps : List String}

theorem sets_none : Sets ps none :=
  nofun

theorem sets_some {s : Resolution} (h : ∀ d ∈ s.declarations, d.1 ∈ ps) : Sets ps (some s) := by
  rintro _ ⟨⟩
  exact h

theorem sets_single {property v : String} (hp : property ∈ ps) (selector : Option String) (negatable : Bool) :
    Sets ps (some ⟨[(property, v)], selector, negatable⟩) :=
  sets_some (List.forall_mem_singleton.2 hp)

theorem sets_one {property : String} (hp : property ∈ ps) (negatable : Bool) (value : Option String) :
    Sets ps (one property negatable value) := by
  cases value with
  | none => exact sets_none
  | some v => exact sets_single hp none negatable

theorem sets_shared {properties : List String} (hp : properties ⊆ ps) (negatable : Bool) (value : Option String) :
    Sets ps (value.map fun v => ⟨properties.map (·, v), none, negatable⟩) := by
  cases value with
  | none => exact sets_none
  | some v =>
    apply sets_some
    intro d hd
    obtain ⟨p, hm, rfl⟩ := List.mem_map.1 hd
    exact hp hm

variable (at_ : Surroundings) (key : String)

theorem sets_colored {property : String} (hp : property ∈ ps) : Ensures (Sets ps) (colored at_ key property) := by
  rw [colored, ensures_map]
  exact fun o _ => sets_one hp false o

theorem sets_stop (stop : GradientStop) (color : String) :
    Ensures (fun ds => ∀ d ∈ ds, d.1 ∈ (gradientStop stop).properties) (stopDeclarations color stop) := by
  cases stop with
  | first =>
    rw [stopDeclarations, ensures_bind]
    intro clear _
    rw [ensures_pure]
    simp [properties]
  | middle => exact (ensures_ok _).2 (by simp [properties])
  | last => exact (ensures_ok _).2 (by simp [properties])

theorem sets_sides {found : List String} {width : String} (hs : side? key = some (found, width))
    (value : Option String) : Sets border.properties (value.map fun v => .unsigned (found.map (·, v))) := by
  rw [side?] at hs
  obtain ⟨sides, hg, he⟩ := Option.map_eq_some_iff.1 hs
  cases he
  have hm : found ∈ borderSides.values := List.mem_map.2 ⟨_, (Table.get?_eq_some_iff _ _ _).1 hg, rfl⟩
  have hsub : found ⊆ border.properties := fun p hp =>
    List.mem_append_right _ (List.mem_flatten.2 ⟨found, hm, hp⟩)
  exact sets_shared hsub false value

theorem sets_border : Ensures (Sets border.properties) (resolveBorder at_ key) := by
  have hcolor (v : String) : Sets border.properties (some (.unsigned [("border-color", v)])) :=
    sets_single (by simp [properties]) none false
  -- a colour goes before what is found otherwise
  have hbehind {o : Option Resolution} (ho : Sets border.properties o)
      {choose : Option String → Except Fault (Option Resolution)} (hnone : choose none = .ok o)
      (hsome : ∀ v, choose (some v) = .ok (some (.unsigned [("border-color", v)]))) :
      Ensures (Sets border.properties)
        (if (bracket? key).isNone = true then at_.palette.resolve key >>= choose else .ok o) := by
    split
    · rw [ensures_bind]
      intro found _
      cases found with
      | some v =>
        rw [hsome]
        exact (ensures_ok _).2 (hcolor v)
      | none =>
        rw [hnone]
        exact (ensures_ok _).2 ho
    · exact (ensures_ok _).2 ho
  rw [resolveBorder]
  split
  · exact (ensures_pure _).2 (hcolor _)
  · split
    · rename_i hs
      exact hbehind (sets_sides key hs _) rfl fun _ => rfl
    · split
      · exact hbehind (sets_single (by simp [properties]) none false) rfl fun _ => rfl
      · exact hbehind (sets_one (by simp [properties]) false _) rfl fun _ => rfl

theorem sets_resolve (family : Family) (negated : Bool) :
    Ensures (Sets family.properties) (family.resolve at_ key negated) := by
  cases family with
  | spacing group =>
    rw [resolve]
    split
    · exact (ensures_ok _).2 sets_none
    · rw [ensures_map]
      exact fun o _ => sets_shared (List.Subset.refl _) true o
  | spaceBetween property =>
    rw [resolve, ensures_ok]
    cases (bracket? key).or (at_.theme.spacing.get? key) with
    | none => exact sets_none
    | some v => exact sets_single (List.mem_singleton.2 rfl) _ true
  | text =>
    rw [resolve, resolveText]
    split
    · exact (ensures_ok _).2 (sets_single (by simp [properties]) none true)
    · split
      · exact (ensures_ok _).2 (sets_single (by simp [properties]) none true)
      · exact sets_colored at_ key (by simp [properties])
  | background =>
    rw [resolve]
    split
    · rename_i d hd
      have hm : d ∈ backgroundKeywords.values := List.mem_map.2 ⟨_, (Table.get?_eq_some_iff _ _ _).1 hd, rfl⟩
      exact (ensures_ok _).2
        (sets_some (List.forall_mem_singleton.2 (List.mem_cons_of_mem _ (List.mem_map_of_mem hm))))
    · exact sets_colored at_ key (List.mem_cons_self ..)
  | gradientDirection =>
    rw [resolve, ensures_ok]
    cases gradientDirections.get? key with
    | none => exact sets_none
    | some direction => exact sets_single (List.mem_singleton.2 rfl) none false
  | gradientStop stop =>
    rw [resolve, ensures_bind]
    intro o _
    cases o with
    | none => exact (ensures_pure _).2 sets_none
    | some color =>
      dsimp only
      rw [ensures_bind]
      exact fun ds hds => (ensures_pure _).2 (sets_some (sets_stop stop color ds hds))
  | border => exact sets_border at_ key
  | radius corners => exact (ensures_ok _).2 (sets_shared (List.Subset.refl _) false _)
  | scale =>
    rw [resolve, ensures_ok]
    cases scaleFactor key with
    | none => exact sets_none
    | some f => exact sets_single (List.mem_singleton.2 rfl) none false
  | backdropBlur =>
    rw [resolve, ensures_ok]
    cases (bracket? key).or (blurSizes.get? key) with
    | none => exact sets_none
    | some v => exact sets_some (by simp [blur, Resolution.unsigned, properties])
  | transition =>
    rw [resolve, ensures_ok, resolveTransition]
    split
    · exact sets_single (by simp [properties]) none false
    · cases transitionProperties.get? key with
      | none => exact sets_none
      | some v => exact sets_some (by simp [Resolution.unsigned, properties])
  | gridColumns =>
    rw [resolve, ensures_map]
    exact fun o _ => sets_one (List.mem_singleton.2 rfl) false o
  | columnSpan =>
    rw [resolve, ensures_map]
    exact fun o _ => sets_one (List.mem_singleton.2 rfl) false o
  | zIndex => exact (ensures_ok _).2 (sets_one (List.mem_singleton.2 rfl) true _)
  | opacity | aspectRatio | shadow | ease | timing =>
    exact (ensures_ok _).2 (sets_one (List.mem_singleton.2 rfl) false _)

end UtilityCss.Family
