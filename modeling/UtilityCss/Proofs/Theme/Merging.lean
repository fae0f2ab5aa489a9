import UtilityCss.Config.Schema
import UtilityCss.Proofs.Table

namespace UtilityCss

namespace Table

variable {κ α β : Type} [DecidableEq κ]

/-- An ordered table whose keys are those of a base and behind them the new ones of an extension, which also has
the last say on values. -/
structure Updates (base extension t : Table κ α) : Prop where
  get? : ∀ k, t.get? k = (extension.get? k).or (base.get? k)
  keys : t.keys = base.keys ++ extension.keys.filter (· ∉ base.keys)

theorem updates_update (base extension : Table κ α) : Updates base extension (base.update extension) :=
  ⟨get?_update base extension, keys_update base extension⟩

theorem Updates.map {base extension t : Table κ α} (h : Updates base extension t) (f : α → β) :
    Updates (base.map f) (extension.map f) (t.map f) where
  get? k := by rw [get?_map, get?_map, get?_map, h.get?, Option.map_or]
  keys := by rw [keys_map, keys_map, keys_map, h.keys]

theorem ofList_entries (t : Table κ α) : ofList t.entries = t := by
  have hentries : (ofList t.entries).entries = t.entries := entries_ofList t.distinct
  cases h : ofList t.entries
  cases t
  rw [h] at hentries
  cases hentries
  rfl

def datum (value : α → Datum) (t : Table String α) : Datum :=
  .map (t.entries.map fun e => (.text e.1, value e.2))

end Table

def Color.datum : Color → Datum
  | flat v => .scalar (.text v)
  | scale shades => shades.datum (.scalar ∘ .text)

def Theme.fields (t : Theme) : List (Scalar × Datum) :=
  (.text "colors", t.colors.datum Color.datum) ::
    Scale.all.map fun s => (.text s.fieldName, (t.tokens s).datum (.scalar ∘ .text))

namespace Schema

variable {α : Type} {value : α → Datum} {check : List String → Datum → Checked α}

theorem every_map {ι β : Type} {f : ι → Checked β} {g : ι → β} {xs : List ι} (h : ∀ x ∈ xs, f x = .ok (g x)) :
    every (xs.map f) = .ok (xs.map g) := by
  induction xs with
  | nil => rfl
  | cons x xs ih =>
    rw [List.forall_mem_cons] at h
    rw [List.map_cons, every, h.1, ih h.2]
    rfl

theorem entries_textKeys (value : α → Datum) (t : Table String α) :
    (textKeys (t.entries.map fun e => (.text e.1, value e.2))).entries =
      t.entries.map fun e => (.text e.1, value e.2) := by
  have hkeys : (t.entries.map fun e => ((Scalar.text e.1, value e.2) : Scalar × Datum)).map Prod.fst =
      t.keys.map Scalar.text := by
    simp [Table.keys]
  have hdistinct : (t.keys.map Scalar.text).Nodup := t.distinct.map fun a b hab => Scalar.text.inj hab
  have hsame : ((t.entries.map fun e => ((Scalar.text e.1, value e.2) : Scalar × Datum)).map
      fun e => (e.1.asText, e.2)) = t.entries.map fun e => (.text e.1, value e.2) := by
    rw [List.map_map]
    rfl
  rw [textKeys, hsame, Table.entries_ofList (hkeys ▸ hdistinct)]

theorem entryObstacle?_datum {calls : Nat} (h : ∀ v, obstacle? (value v) calls = none) (es : List (String × α)) :
    entryObstacle? (es.map fun e => (.text e.1, value e.2)) calls = none := by
  induction es with
  | nil => rfl
  | cons e es ih =>
    rw [List.map_cons, entryObstacle?, h, ih]
    rfl

theorem obstacle?_text (v : String) (calls : Nat) : obstacle? (.scalar (.text v)) (calls + 1) = none :=
  rfl

theorem obstacle?_color (c : Color) (calls : Nat) : obstacle? c.datum (calls + 2) = none := by
  cases c with
  | flat v => exact obstacle?_text v (calls + 1)
  | scale shades =>
    rw [Color.datum, Table.datum, obstacle?]
    exact entryObstacle?_datum (fun v => obstacle?_text v calls) shades.entries

theorem withDefault_of_named {names : List String} {default : α} {entries : List (Scalar × Datum)} {name : String}
    {d : Datum} {a : α} (hn : named? names entries = some (name, d)) (h : check [name] d = .ok a) :
    withDefault names check default entries = .ok a := by
  rw [withDefault, optional, hn]
  dsimp only
  rw [List.nil_append, h]
  rfl

theorem named?_fields (t : Theme) (s : Scale) :
    named? (scaleNames s) t.fields = some (s.fieldName, (t.tokens s).datum (.scalar ∘ .text)) := by
  cases s <;> rfl

variable [Document.Host]

theorem table_datum (h : ∀ path v, check path (value v) = .ok v) (path : List String) (t : Table String α) :
    table check path (t.entries.map fun e => (.text e.1, value e.2)) = .ok t := by
  have hentry : ∀ e ∈ t.entries, both ((tokenKey path (.text e.1)).map Prod.mk)
      (check (path ++ [(Scalar.text e.1).pathText]) (value e.2)) = .ok (id e) := by
    intro e _
    rw [h]
    rfl
  rw [table, entries_textKeys, List.map_map]
  simp only [Function.comp_def]
  rw [every_map hentry, List.map_id, Except.map, Table.ofList_entries]

theorem tokenMap_datum (h : ∀ path v, check path (value v) = .ok v)
    (ho : ∀ v calls, obstacle? (value v) (calls + 2) = none) (path : List String) (t : Table String α) :
    tokenMap check path (t.datum value) = .ok t := by
  obtain ⟨n, hn⟩ := Nat.exists_eq_add_of_le' Document.Host.three_le_calls
  rw [Table.datum, tokenMap, hn, obstacle?, entryObstacle?_datum fun v => ho v n]
  exact table_datum h path t

theorem token_text (path : List String) (v : String) : token path (.scalar (.text v)) = .ok v :=
  rfl

theorem color_datum (path : List String) (c : Color) : color path c.datum = .ok c := by
  cases c with
  | flat v => rfl
  | scale shades =>
    have htoken : token (path ++ ["str"]) (shades.datum (.scalar ∘ .text)) = fail .notText (path ++ ["str"]) := rfl
    have hshades : Schema.shades (path ++ ["dict[str,str]"]) (shades.datum (.scalar ∘ .text)) = .ok shades :=
      table_datum token_text _ shades
    rw [Color.datum, color, htoken, fail, hshades]

theorem tokens_datum (path : List String) (t : Table String String) :
    tokens path (t.datum (.scalar ∘ .text)) = .ok t :=
  tokenMap_datum token_text (fun v calls => obstacle?_text v (calls + 1)) path t

theorem colors_datum (path : List String) (t : Table String Color) : colors path (t.datum Color.datum) = .ok t :=
  tokenMap_datum color_datum obstacle?_color path t

theorem theme_fields (t : Theme) : theme (.map t.fields) = .ok t := by
  have hcolors : withDefault ["colors"] colors .empty t.fields = .ok t.colors :=
    withDefault_of_named rfl (colors_datum ["colors"] t.colors)
  have hscale (s : Scale) : withDefault (scaleNames s) tokens .empty t.fields = .ok (t.tokens s) :=
    withDefault_of_named (named?_fields t s) (tokens_datum [s.fieldName] (t.tokens s))
  rw [theme]
  dsimp only
  rw [hcolors, hscale, hscale, hscale, hscale, hscale]
  rfl

end Schema

namespace Theme

def Overrides.category (o : Overrides) : Category → Option (Table String Color)
  | .colors => o.colors
  | .tokens s => (o.tokens s).map (Table.map .flat)

theorem category_merge_tokens (t : Theme) (a : Adjustment) (s : Scale) :
    (t.merge a).category (.tokens s) =
      (mergeCategory (t.tokens s) (a.own.tokens s) (a.extend.tokens s)).map .flat := by
  rw [category, merge, tokens_ofTokens]

theorem getD_map_flat (o : Option (Table String String)) (t : Table String String) :
    (o.map (Table.map .flat)).getD (t.map .flat) = (o.getD t).map Color.flat := by
  cases o <;> rfl

/-- Each category of a merged theme is the given one, or else the one that was there, with the extension written
over it. Names of other categories change nothing, and the outcome passes the check of a theme unchanged. -/
theorem merge_updates_categories [Document.Host] (t : Theme) (a : Adjustment) :
    (∀ c, Table.Updates ((a.own.category c).getD (t.category c)) ((a.extend.category c).getD .empty)
        ((t.merge a).category c)) ∧
      (∀ own extend : List String,
        t.merge ⟨{ a.own with extra := own }, { a.extend with extra := extend }⟩ = t.merge a) ∧
      Schema.theme (.map (t.merge a).fields) = .ok (t.merge a) := by
  refine ⟨fun c => ?_, fun own extend => rfl, Schema.theme_fields (t.merge a)⟩
  cases c with
  | colors => exact Table.updates_update _ _
  | tokens s =>
    have hempty : (Table.empty : Table String Color) = (Table.empty : Table String String).map .flat := rfl
    rw [category_merge_tokens, Overrides.category, Overrides.category, category, hempty, getD_map_flat, getD_map_flat]
    exact (Table.updates_update _ _).map Color.flat

end Theme

end UtilityCss
