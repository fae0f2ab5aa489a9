import UtilityCss.Proofs.Rule.Merging
import UtilityCss.Proofs.Selector.Spelling
import UtilityCss.Proofs.Stylesheet.Breakpoints
import UtilityCss.Proofs.Stylesheet.Rows

namespace UtilityCss.Stylesheet

variable (breakpoints : Table String String) (rules : Table String (List Rule))

def keyed : List (String × Context) :=
  rules.entries.flatMap fun e => (Rule.contexts e.2).map (e.1, ·)

def schemeOf (c : Context) : Option Scheme :=
  if c.mode = some "dark" then some .dark else if c.mode = some "light" then some .light else none

/-- The places of the blocks of a context; a breakpoint that the table does not have is left out. -/
def homes (c : Context) : List Place :=
  let width := c.breakpoint.filter (· ∈ breakpoints.keys)
  ⟨none, width⟩ :: ((schemeOf c).map fun m => ⟨some m, width⟩).toList

def toggledText : Scheme → String → String
  | .dark, s => "[data-theme=\"dark\"] " ++ s ++ ", .dark-mode " ++ s
  | .light, s => "[data-theme=\"light\"] " ++ s ++ ", .light-mode " ++ s

def residents (p : Place) : List (String × Context) :=
  (keyed rules).filter fun k => p ∈ homes breakpoints k.2

/-- The block of a context at a place. In the sections for all readers a scheme stands behind its
toggles. -/
def blockAt (p : Place) (k : String × Context) : Block :=
  let selector := Selector.spelled k.1 k.2
  { selector := match p.scheme, schemeOf k.2 with
      | none, some m => toggledText m selector
      | _, _ => selector
    lines := Rule.linesIn ((rules.get? k.1).getD []) k.2 }

def blocksAt (p : Place) : List Block :=
  (residents breakpoints rules p).map (blockAt rules p)

def places (names : List String) : List Place :=
  ⟨none, none⟩ :: names.map (⟨none, some ·⟩) ++
    [Scheme.dark, Scheme.light].flatMap fun m => ⟨some m, none⟩ :: names.map (⟨some m, some ·⟩)

theorem schemeOf_eq (c : Context) : schemeOf c = c.mode.bind Scheme.ofName? := by
  rw [schemeOf]
  cases c.mode with
  | none => rfl
  | some word =>
    by_cases hd : word = "dark"
    · subst hd
      rfl
    · by_cases hl : word = "light"
      · subst hl
        rfl
      · simp [Scheme.ofName?, Scheme.all, Scheme.name, hd, hl, Ne.symm hd, Ne.symm hl]

theorem homes_eq (c : Context) : homes breakpoints c = ⟨none, knownBreakpoint breakpoints c⟩ ::
    ((schemeOf c).map fun m => ⟨some m, knownBreakpoint breakpoints c⟩).toList := by
  have hcontains : (fun b => decide (b ∈ breakpoints.keys)) = breakpoints.contains := by
    funext b
    rw [Bool.eq_iff_iff, decide_eq_true_iff, breakpoints.contains_iff]
  rw [homes, hcontains, knownBreakpoint]

theorem toggledText_eq (m : Scheme) (s : String) : toggledText m s = toggled m s := by
  have hpair {x y front middle : String} (hf : front = x ++ " ") (hm : middle = ", " ++ (y ++ " ")) :
      front ++ s ++ middle ++ s = ", ".intercalate ([x, y].map fun t => t ++ " " ++ s) := by
    rw [List.map_cons, List.map_singleton, String.intercalate_cons_cons, String.intercalate_singleton, hf, hm]
    simp only [String.append_assoc]
  cases m
  · exact hpair (by decide) (by decide)
  · exact hpair (by decide) (by decide)

theorem blockAt_eq (p : Place) (k : String × Context) : blockAt rules p k =
    { selector := match p.scheme, schemeOf k.2 with
        | none, some m => toggled m (Selector.build Vocabulary.variants k.1 k.2)
        | _, _ => Selector.build Vocabulary.variants k.1 k.2
      lines := Rule.linesIn ((rules.get? k.1).getD []) k.2 } := by
  simp only [blockAt, toggledText_eq, Selector.spelled_eq]

theorem mem_keyed {token : String} {c : Context} :
    (token, c) ∈ keyed rules ↔ ∃ rs, rules.get? token = some rs ∧ ∃ r ∈ rs, r.context = c := by
  simp only [keyed, List.mem_flatMap, List.mem_map, Rule.mem_contexts, Prod.mk.injEq, Prod.exists,
    rules.get?_eq_some_iff]
  constructor
  · rintro ⟨_, rs, he, _, hc, rfl, rfl⟩
    exact ⟨rs, he, hc⟩
  · rintro ⟨rs, he, hc⟩
    exact ⟨token, rs, he, c, hc, rfl, rfl⟩

theorem nodup_keyed : (keyed rules).Nodup := by
  rw [keyed, List.nodup_flatMap]
  constructor
  · intro e _
    exact (Rule.nodup_contexts e.2).map (Prod.mk_right_injective e.1)
  · have hd : rules.entries.Pairwise fun e f => e.1 ≠ f.1 := List.pairwise_map.1 rules.distinct
    apply hd.imp
    intro e f hne x hx hy
    obtain ⟨c, _, rfl⟩ := List.mem_map.1 hx
    obtain ⟨d, _, hd⟩ := List.mem_map.1 hy
    exact hne (congrArg Prod.fst hd).symm

theorem standing_append (p : Place) (xs ys : List (Place × Block)) :
    standing p (xs ++ ys) = standing p xs ++ standing p ys := by
  simp [standing]

theorem standing_flatMap {α : Type} (p : Place) (f : α → List (Place × Block)) (xs : List α) :
    standing p (xs.flatMap f) = xs.flatMap fun x => standing p (f x) := by
  induction xs with
  | nil => rfl
  | cons x xs ih => rw [List.flatMap_cons, standing_append, ih, List.flatMap_cons]

theorem standing_blocksOf {token : String} {rs : List Rule} (h : rules.get? token = some rs) (p : Place)
    (c : Context) :
    standing p (blocksOf breakpoints token ⟨Rule.linesIn rs c, c⟩) =
      if p ∈ homes breakpoints c then [blockAt rules p (token, c)] else [] := by
  simp only [blocksOf, homes_eq, blockAt_eq, ← schemeOf_eq]
  cases hm : schemeOf c with
  | none =>
    by_cases hp : p = ⟨none, knownBreakpoint breakpoints c⟩
    · subst hp
      simp [standing, h]
    · simp [standing, hp, Ne.symm hp]
  | some m =>
    by_cases hp : p = ⟨none, knownBreakpoint breakpoints c⟩
    · subst hp
      simp [standing, h]
    · by_cases hs : p = ⟨some m, knownBreakpoint breakpoints c⟩
      · subst hs
        simp [standing, h]
      · simp [standing, hp, hs, Ne.symm hp, Ne.symm hs]

theorem filter_map_eq_flatMap {α β : Type} (q : α → Bool) (f : α → β) (xs : List α) :
    (xs.filter q).map f = xs.flatMap fun x => if q x then [f x] else [] := by
  induction xs with
  | nil => rfl
  | cons x xs ih => by_cases h : q x <;> simp [h, ih]

theorem standing_placed (p : Place) :
    standing p (placed breakpoints rules) = blocksAt breakpoints rules p := by
  rw [placed, standing_flatMap, blocksAt, residents, filter_map_eq_flatMap, keyed, List.flatMap_assoc,
    List.flatMap_congr]
  intro e he
  have hg : rules.get? e.1 = some e.2 := (rules.get?_eq_some_iff e.1 e.2).2 he
  rw [Rule.merge_eq, List.flatMap_map, standing_flatMap, List.flatMap_map]
  apply List.flatMap_congr
  intro c _
  rw [standing_blocksOf breakpoints rules hg]
  simp

theorem places_ordered :
    places (ordered breakpoints) = ⟨none, none⟩ :: mediaPlaces breakpoints := by
  simp [places, mediaPlaces, Scheme.all, Function.comp_def]

theorem base_not_mem_mediaPlaces : (⟨none, none⟩ : Place) ∉ mediaPlaces breakpoints := by
  simp [mediaPlaces, Scheme.all]

theorem nodup_places {names : List String} (h : names.Nodup) : (places names).Nodup := by
  have hwidth (s : Option Scheme) : (names.map fun n => (⟨s, some n⟩ : Place)).Nodup :=
    h.map fun a b hab => by simpa using hab
  have hscheme (s : Option Scheme) : ((⟨s, none⟩ : Place) :: names.map (⟨s, some ·⟩)).Nodup :=
    List.nodup_cons.2 ⟨by simp, hwidth s⟩
  rw [places, List.flatMap_cons, List.flatMap_cons, List.flatMap_nil, List.append_nil]
  refine (hscheme none).append ((hscheme _).append (hscheme _) ?_) ?_
  · rintro p hp hq
    simp only [List.mem_cons, List.mem_map] at hp hq
    rcases hp with rfl | ⟨n, _, rfl⟩ <;> simp at hq
  · rintro p hp hq
    simp only [List.mem_append, List.mem_cons, List.mem_map] at hp hq
    rcases hp with rfl | ⟨n, _, rfl⟩ <;> simp at hq

theorem homes_subset_places (c : Context) {p : Place} (h : p ∈ homes breakpoints c) :
    p ∈ places (ordered breakpoints) := by
  have hb : ∀ b, knownBreakpoint breakpoints c = some b → b ∈ ordered breakpoints := by
    intro b hb
    rw [knownBreakpoint, Option.filter_eq_some_iff, Table.contains_iff] at hb
    exact (ordered_ascending breakpoints).perm.mem_iff.2 hb.2
  rw [homes_eq, List.mem_cons, Option.mem_toList, Option.map_eq_some_iff] at h
  simp only [places, List.flatMap_cons, List.flatMap_nil, List.mem_cons, List.mem_append, List.mem_map]
  rcases h with rfl | ⟨m, _, rfl⟩
  · cases hk : knownBreakpoint breakpoints c with
    | none => simp
    | some b => simp [hb b hk]
  · cases hk : knownBreakpoint breakpoints c with
    | none => cases m <;> simp
    | some b => cases m <;> simp [hb b hk]

def sectionAt (p : Place) : Section :=
  if p = ⟨none, none⟩ then .base (blocksAt breakpoints rules p)
  else .media (query breakpoints p) (blocksAt breakpoints rules p)

theorem ruleSections_eq :
    ruleSections breakpoints (placed breakpoints rules) =
      ((places (ordered breakpoints)).filter fun p => !(blocksAt breakpoints rules p).isEmpty).map
        (sectionAt breakpoints rules) := by
  have hmedia : (mediaPlaces breakpoints).flatMap (fun p =>
      if !(blocksAt breakpoints rules p).isEmpty then [sectionAt breakpoints rules p] else []) =
      (mediaPlaces breakpoints).filterMap fun p =>
        if (blocksAt breakpoints rules p).isEmpty then none
        else some (.media (query breakpoints p) (blocksAt breakpoints rules p)) := by
    rw [List.filterMap_eq_flatMap_toList]
    apply List.flatMap_congr
    intro p hp
    have hne : p ≠ ⟨none, none⟩ := fun he => base_not_mem_mediaPlaces breakpoints (he ▸ hp)
    cases (blocksAt breakpoints rules p).isEmpty <;> simp [sectionAt, hne]
  rw [ruleSections]
  simp only [standing_placed]
  rw [places_ordered, filter_map_eq_flatMap, List.flatMap_cons, hmedia, sectionAt, if_pos rfl]
  congr 1
  cases (blocksAt breakpoints rules ⟨none, none⟩).isEmpty <;> rfl

theorem ruleSections_of_base {bs : List (Place × Block)}
    (hne : bs ≠ []) (h : ∀ b ∈ bs, b.1 = ⟨none, none⟩) : ruleSections breakpoints bs = [.base (bs.map Prod.snd)] := by
  have hbase : standing ⟨none, none⟩ bs = bs.map Prod.snd := by
    rw [standing, List.filter_eq_self.2]
    simpa using h
  have hmedia : ∀ p ∈ mediaPlaces breakpoints, standing p bs = [] := by
    intro p hp
    rw [standing, List.map_eq_nil_iff, List.filter_eq_nil_iff]
    intro b hb he
    rw [h b hb, decide_eq_true_eq] at he
    exact base_not_mem_mediaPlaces breakpoints (he ▸ hp)
  rw [ruleSections, hbase, List.filterMap_eq_nil_iff.2]
  · simpa using hne
  · intro p hp
    simp [hmedia p hp]

def Block.chars (b : Block) : List Char :=
  b.selector.toList ++ " \x7b\n".toList ++ ['\n'].intercalate (b.lines.map fun line => indent.toList ++ line.toList) ++
    "\n\x7d".toList

theorem toList_base (blocks : List Block) :
    (Section.base blocks).text.toList = ['\n'].intercalate (blocks.map Block.chars) := by
  rw [Section.text, unlines, String.toList_intercalate, List.map_map]
  congr 1
  refine List.map_congr_left fun b _ => ?_
  simp [Block.text, braces, unlines, String.toList_intercalate, Block.chars, Function.comp_def]

theorem suffix_emit_of_base {bs : List Block} (h : placed breakpoints rules = bs.map (⟨none, none⟩, ·)) (hne : bs ≠ [])
    (o : Opening) : ['\n'].intercalate (bs.map Block.chars) ++ ['\n'] <:+ (emit o breakpoints rules).toList := by
  have hsections : ruleSections breakpoints (placed breakpoints rules) = [.base bs] := by
    rw [h, ruleSections_of_base breakpoints (by simpa using hne) (by simp), List.map_map]
    simp [Function.comp_def]
  obtain ⟨front, hfront⟩ := Text.suffix_intercalate "\n\n" (o.sections.map Section.text) [(Section.base bs).text]
  refine ⟨front, ?_⟩
  rw [emit, render, sections, hsections, List.map_append, List.map_singleton, String.toList_append, ← hfront,
    String.intercalate_singleton, toList_base, List.append_assoc]
  rfl

variable {rules}

theorem mem_lines_blocksAt {p : Place} {b : Block} (hb : b ∈ blocksAt breakpoints rules p) {line : String}
    (hl : line ∈ b.lines) : ∃ e ∈ rules.entries, ∃ r ∈ e.2, line ∈ r.lines := by
  obtain ⟨⟨token, c⟩, hk, rfl⟩ := List.mem_map.1 hb
  obtain ⟨rs, hrs, _⟩ := (mem_keyed rules).1 (List.mem_filter.1 hk).1
  rw [blockAt, hrs, Option.getD_some, Rule.linesIn, List.mem_flatMap] at hl
  obtain ⟨r, hr, hlr⟩ := hl
  exact ⟨(token, rs), (rules.get?_eq_some_iff token rs).1 hrs, r, (List.mem_filter.1 hr).1, hlr⟩

end UtilityCss.Stylesheet
