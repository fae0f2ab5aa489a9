import UtilityCss.Color.Palette
import UtilityCss.Proofs.Table

namespace UtilityCss

open Table

namespace Palette

theorem get?_ofLeaves {κ : Type} [DecidableEq κ] (leaves aliases : List (κ × String)) (k : κ) :
    (ofLeaves leaves aliases).get? k = (lastValue k leaves).or (find? k aliases) := by
  have hstep : ∀ t : Palette κ, (aliases.foldl (fun t e => if t.contains e.1 then t else t.insert e.1 e.2) t).get? k =
      (t.get? k).or (find? k aliases) := by
    induction aliases with
    | nil => simp [find?]
    | cons e aliases ih =>
      intro t
      rw [List.foldl_cons, ih, find?]
      by_cases hk : e.1 = k
      · subst hk
        by_cases hc : t.contains e.1 = true
        · obtain ⟨v, hv⟩ := Option.isSome_iff_exists.1 hc
          simp [hc, hv]
        · have hnone : t.get? e.1 = none := Option.not_isSome_iff_eq_none.1 hc
          simp [hc, hnone]
      · rw [if_neg hk]
        split
        · rfl
        · rw [get?_insert, if_neg hk]
  rw [ofLeaves, hstep, get?_ofList]

theorem forall_ofLeaves {κ : Type} [DecidableEq κ] {P : κ × String → Prop} {leaves aliases : List (κ × String)}
    (hl : ∀ e ∈ leaves, P e) (ha : ∀ e ∈ aliases, P e) : ∀ e ∈ (ofLeaves leaves aliases).entries, P e := by
  have hstep : ∀ t : Palette κ, (∀ e ∈ t.entries, P e) →
      ∀ e ∈ (aliases.foldl (fun t e => if t.contains e.1 then t else t.insert e.1 e.2) t).entries, P e := by
    induction aliases with
    | nil => exact fun t ht => ht
    | cons f aliases ih =>
      rw [List.forall_mem_cons] at ha
      intro t ht
      refine ih ha.2 _ ?_
      dsimp only
      split
      · exact ht
      · intro e he
        rcases mem_put he with rfl | he
        · exact ha.1
        · exact ht e he
  exact hstep _ (forall_ofList hl)

end Palette

namespace Color

def mainShade? : Color → Option String
  | flat _ => none
  | scale shades => shades.get? defaultShade

end Color

theorem Palette.get?_ofTheme (t : Theme) (k : String) :
    (Palette.ofTheme t).get? k = (lastValue k (t.colors.entries.flatMap fun e => leaves e.1 e.2)).or
      ((t.colors.get? k).bind Color.mainShade?) := by
  have halias (e : String × Color) (v : String) :
      alias? e.1 e.2 = some (k, v) ↔ (if e.1 = k then e.2.mainShade? else none) = some v := by
    obtain ⟨name, _ | shades⟩ := e
    · simp [alias?, Color.mainShade?]
    · by_cases hk : name = k <;> simp [alias?, Color.mainShade?, hk]
  rw [ofTheme, flatten, get?_ofLeaves, find?_filterMap fun e _ => halias e, findSome?_key t.colors.distinct]
  rfl

namespace Datum

def flatLeaves : Scalar × Datum → List (Scalar × String)
  | (key, map shades) => shades.map fun s => (.text (shadeName key.toText s.1.toText), s.2.toText)
  | (key, d) => [(key, d.toText)]

def mainShade? : Datum → Option String
  | map shades => (field? defaultShade shades).map toText
  | _ => none

def ColorKey.Plain (key : ColorKey) : Prop :=
  ∀ s, key.scalar = .text s → key = .text s

theorem ColorKey.plain_at (k : Scalar) (place : Nat) : (ColorKey.at k place).Plain := by
  rintro s rfl
  rfl

theorem plain_colorLeaves {key : ColorKey} (h : key.Plain) (d : Datum) : ∀ e ∈ colorLeaves key d, e.1.Plain := by
  intro e he
  rw [colorLeaves.eq_def] at he
  split at he
  · obtain ⟨s, _, rfl⟩ := List.mem_map.1 he
    rintro _ ⟨⟩
    rfl
  · rwa [List.mem_singleton.1 he]

theorem plain_colorAlias? {key : ColorKey} (h : key.Plain) {d : Datum} {e : ColorKey × String}
    (he : colorAlias? key d = some e) : e.1.Plain := by
  rw [colorAlias?.eq_def] at he
  split at he
  · obtain ⟨_, _, rfl⟩ := Option.map_eq_some_iff.1 he
    exact h
  · cases he

def placed (colors : List (Scalar × Datum)) : List (ColorKey × Datum) :=
  colors.zipIdx.map fun e => (ColorKey.at e.1.1 e.2, e.1.2)

theorem plain_of_mem_placed {colors : List (Scalar × Datum)} {e : ColorKey × Datum} (h : e ∈ placed colors) :
    e.1.Plain := by
  obtain ⟨f, _, rfl⟩ := List.mem_map.1 h
  exact ColorKey.plain_at _ _

theorem map_placed (colors : List (Scalar × Datum)) : ((placed colors).map fun e => (e.1.scalar, e.2)) = colors := by
  have hplace : (fun e : ColorKey × Datum => (e.1.scalar, e.2)) ∘ (fun e : (Scalar × Datum) × Nat =>
      (ColorKey.at e.1.1 e.2, e.1.2)) = Prod.fst := rfl
  rw [placed, List.map_map, hplace, List.zipIdx_map_fst]

theorem get?_named {p : Palette ColorKey} (h : ∀ e ∈ p.entries, e.1.Plain) (k : String) :
    p.named.get? k = p.get? (.text k) := by
  have hreverse : (p.entries.reverse.map Prod.fst).Nodup := by
    rw [List.map_reverse, List.nodup_reverse]
    exact p.distinct
  rw [Palette.named, get?_ofList, lastValue, ← List.filterMap_reverse,
    find?_filterMap (f := fun e => if e.1 = .text k then some e.2 else none)]
  · rw [findSome?_key hreverse, ← lastValue, lastValue_of_nodup p.distinct, Option.bind_fun_some, get?]
  · rintro ⟨key, v⟩ he w
    have hplain := h _ (List.mem_reverse.1 he)
    by_cases hk : key = .text k
    · simp [hk, ColorKey.text]
    · have hs : key.scalar ≠ .text k := fun hs => hk (hplain k hs)
      rw [if_neg hk]
      dsimp only
      split <;> simp_all

theorem get?_named_palette (colors : List (Scalar × Datum)) (k : String) :
    (palette (.map colors)).named.get? k = (lastValue (.text k) (colors.flatMap flatLeaves)).or
      (colors.findSome? fun e => if e.1 = .text k then mainShade? e.2 else none) := by
  have hleaf : ∀ e ∈ (placed colors).flatMap fun e => colorLeaves e.1 e.2, e.1.Plain := by
    rw [List.forall_mem_flatMap]
    exact fun e he => plain_colorLeaves (plain_of_mem_placed he) e.2
  have hmain : ∀ e ∈ (placed colors).filterMap fun e => colorAlias? e.1 e.2, e.1.Plain := by
    intro e he
    obtain ⟨f, hf, he⟩ := List.mem_filterMap.1 he
    exact plain_colorAlias? (plain_of_mem_placed hf) he
  have hleaves : ((placed colors).flatMap fun e => colorLeaves e.1 e.2).map (fun e => (e.1.scalar, e.2)) =
      colors.flatMap flatLeaves := by
    rw [← map_placed colors, List.flatMap_map, map_placed, List.map_flatMap]
    apply List.flatMap_congr
    rintro ⟨key, d⟩ _
    cases d <;> simp [colorLeaves, flatLeaves, ColorKey.text]
  have halias : ∀ e ∈ placed colors, ∀ v, colorAlias? e.1 e.2 = some (.text k, v) ↔
      (if e.1.scalar = .text k then mainShade? e.2 else none) = some v := by
    rintro ⟨key, d⟩ he v
    have hplain : key.Plain := plain_of_mem_placed he
    by_cases hk : key = .text k
    · cases d <;> simp [colorAlias?, mainShade?, hk, ColorKey.text]
    · have hs : key.scalar ≠ .text k := fun hs => hk (hplain k hs)
      cases d <;> simp [colorAlias?, hk, hs]
  have hscale : find? (.text k) ((placed colors).filterMap fun e => colorAlias? e.1 e.2) =
      colors.findSome? fun e => if e.1 = .text k then mainShade? e.2 else none := by
    rw [find?_filterMap halias, ← map_placed colors, List.findSome?_map, map_placed]
    rfl
  have hpalette : palette (.map colors) = .ofLeaves ((placed colors).flatMap fun e => colorLeaves e.1 e.2)
    ((placed colors).filterMap fun e => colorAlias? e.1 e.2) := rfl
  rw [hpalette, get?_named (Palette.forall_ofLeaves hleaf hmain), Palette.get?_ofLeaves, hscale, ← hleaves]
  congr 1
  exact (lastValue_map fun e he hk => hleaf e he k hk).symm

end Datum

end UtilityCss
