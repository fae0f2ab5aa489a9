import UtilityCss.Proofs.Pattern.Balance

namespace UtilityCss.Pattern

variable {inside : Bool} {a b i cs : List Char}

def Expands (cs w : List Char) : Prop :=
  ∃ a i b o, group? cs = some (a, i, b) ∧ o ∈ i.splitOn ',' ∧ w = a ++ o ++ b

theorem opens_of_expands {w : List Char} (h : Expands cs w) : opens w + 1 = opens cs := by
  obtain ⟨a, i, b, o, hg, ho, rfl⟩ := h
  have hi : Braceless i := braceless_of_group? hg
  have hone : opens o = 0 := List.count_eq_zero.2 (hi.of_mem_splitOn ho).1
  have hnone : opens i = 0 := List.count_eq_zero.2 hi.1
  rw [group?_eq hg]
  simp only [opens, List.count_append, List.count_cons] at hone hnone ⊢
  simp
  omega

theorem length_le_opens {chain : List (List Char)} (h : List.IsChain Expands (cs :: chain)) :
    chain.length ≤ opens cs := by
  induction chain generalizing cs with
  | nil => exact Nat.zero_le _
  | cons w chain ih =>
    rw [List.isChain_cons_cons] at h
    have hlength := ih h.2
    have hw := opens_of_expands h.1
    rw [List.length_cons]
    omega

theorem expand_row (ha : Unpaired a) {row : List (List Char)} (hne : row ≠ []) (h : ∀ w ∈ row, Unbroken true w)
    (b : List Char) :
    expand (a ++ '\x7b' :: [','].intercalate row ++ '\x7d' :: b) = row.flatMap fun w => expand (a ++ w ++ b) := by
  have hsplit : ([','].intercalate row).splitOn ',' = row :=
    List.splitOn_intercalate ',' (fun w hw => (h w hw).2 rfl) hne
  rw [expand_of_group (group?_of_unpaired ha (braceless_intercalate h) b), hsplit]

mutual

theorem expand_sequence {inside : Bool} : ∀ (t : Sequence inside) {a : List Char} (_ : Unpaired a) (b : List Char),
    expand (a ++ t.text ++ b) = t.texts.flatMap fun w => expand (a ++ w ++ b)
  | .done, _, _, _ => by
    rw [Sequence.text, Sequence.texts, List.flatMap_singleton]
  | .sign c h rest, a, ha, b => by
    have hrest := expand_sequence rest (ha.append h.unbroken.1.2) b
    rw [Sequence.text, Sequence.texts, List.flatMap_map]
    simpa using hrest
  | .group as rest, a, ha, b => by
    have hopen : Unpaired (a ++ ['\x7b']) := ha.append (by decide)
    have hinside := expand_alternatives as hopen ('\x7d' :: rest.text ++ b)
    have hrow : ∀ row ∈ selections as.columns,
        expand (a ++ ['\x7b'] ++ [','].intercalate row ++ ('\x7d' :: rest.text ++ b)) =
          row.flatMap fun w => rest.texts.flatMap fun v => expand (a ++ (w ++ v) ++ b) := by
      intro row hm
      obtain ⟨hne, hall⟩ := as.row_spec hm
      have hbehind : ∀ w ∈ row, expand (a ++ w ++ (rest.text ++ b)) =
          rest.texts.flatMap fun v => expand (a ++ (w ++ v) ++ b) := by
        intro w hw
        have hrest := expand_sequence rest (ha.append (hall w hw).1.2) b
        simpa using hrest
      rw [← List.flatMap_congr hbehind, ← expand_row ha hne hall]
      simp
    have htext : a ++ (Sequence.group as rest : Sequence inside).text ++ b =
        a ++ ['\x7b'] ++ as.text ++ ('\x7d' :: rest.text ++ b) := by
      simp [Sequence.text]
    rw [htext, hinside, List.flatMap_congr hrow, Sequence.texts, List.flatten_eq_flatMap, List.flatMap_assoc,
      List.flatMap_assoc]
    simp only [id_eq, List.flatMap_map]

theorem expand_alternatives : ∀ (as : Alternatives) {a : List Char} (_ : Unpaired a) (b : List Char),
    expand (a ++ as.text ++ b) =
      (selections as.columns).flatMap fun row => expand (a ++ [','].intercalate row ++ b)
  | .last s, a, ha, b => by
    have hs := expand_sequence s ha b
    simpa [Alternatives.text, Alternatives.columns, selections, List.flatMap_assoc] using hs
  | .more s rest, a, ha, b => by
    have hs := expand_sequence s ha (',' :: rest.text ++ b)
    have hrest : ∀ w ∈ s.texts, expand (a ++ w ++ (',' :: rest.text ++ b)) =
        (selections rest.columns).flatMap fun row => expand (a ++ [','].intercalate (w :: row) ++ b) := by
      intro w hw
      have hcomma : Unpaired (a ++ w ++ [',']) := (ha.append (s.unbroken w hw).1.2).append (by decide)
      have hrows : ∀ row ∈ selections rest.columns, expand (a ++ w ++ [','] ++ [','].intercalate row ++ b) =
          expand (a ++ [','].intercalate (w :: row) ++ b) := by
        intro row hm
        rw [List.intercalate_cons_of_ne_nil (rest.row_spec hm).1]
        simp
      rw [← List.flatMap_congr hrows, ← expand_alternatives rest hcomma b]
      simp
    have htext : a ++ (Alternatives.more s rest).text ++ b = a ++ s.text ++ (',' :: rest.text ++ b) := by
      simp [Alternatives.text]
    rw [htext, hs, List.flatMap_congr hrest, Alternatives.columns, selections, List.flatMap_assoc]
    simp only [List.flatMap_map]

end

theorem expand_of_unpaired (h : Unpaired cs) : expand cs = [cs] :=
  expand_of_none (group?_eq_none_of_unpaired h)

theorem expand_text (t : Sequence inside) : expand t.text = t.texts := by
  have hwhole := expand_sequence t (.of_not_close List.not_mem_nil) []
  have hsingle : ∀ w ∈ t.texts, expand w = [w] :=
    fun w hw => expand_of_unpaired (.of_not_close (t.unbroken w hw).1.2)
  simp only [List.nil_append, List.append_nil] at hwhole
  rw [hwhole, List.flatMap_congr hsingle, List.flatMap_singleton']

def filled (first : List Char) (groups : List (List Char × List Char)) (chosen : List (List Char)) : List Char :=
  first ++ (List.zipWith (fun w g => w ++ g.2) chosen groups).flatten

theorem expand_rowText {first : List Char} {groups : List (List Char × List Char)} (h : Flat first groups) :
    expand (rowText first groups) =
      (selections (groups.map fun g => g.1.splitOn ',')).map (filled first groups) := by
  induction groups generalizing first with
  | nil =>
    have hfirst : Unpaired first := h.unpaired.left
    simp [rowText, selections, filled, expand_of_unpaired hfirst]
  | cons g groups ih =>
    obtain ⟨hall, hunpaired⟩ := h
    rw [List.forall_mem_cons] at hall
    rw [List.flatMap_cons] at hunpaired
    have hgroup := expand_of_group (group?_of_unpaired hunpaired.left hall.1 (rowText g.2 groups))
    have hchoice : ∀ w ∈ g.1.splitOn ',', expand (first ++ w ++ rowText g.2 groups) =
        ((selections (groups.map fun g => g.1.splitOn ',')).map (w :: ·)).map (filled first (g :: groups)) := by
      intro w hw
      have hflat : Flat (first ++ w ++ g.2) groups := by
        refine ⟨hall.2, ?_⟩
        rw [List.append_assoc _ g.2]
        exact hunpaired.insert (hall.1.of_mem_splitOn hw)
      have htext : first ++ w ++ rowText g.2 groups = rowText (first ++ w ++ g.2) groups := by
        simp [rowText]
      rw [htext, ih hflat, List.map_map]
      apply List.map_congr_left
      intro chosen _
      simp [filled]
    rw [rowText_cons, hgroup, List.flatMap_congr hchoice, List.map_cons, selections, List.map_flatMap]

theorem none_of_mem_expand {w : List Char} (h : w ∈ expand cs) : group? w = none := by
  induction cs using expand.induct with
  | case1 cs hg =>
    rw [expand_of_none hg, List.mem_singleton] at h
    rwa [h]
  | case2 cs a i b hg ih =>
    rw [expand_of_group hg] at h
    obtain ⟨o, ho, hw⟩ := List.mem_flatMap.1 h
    exact ih ⟨o, ho⟩ hw

theorem mem_expandBraces (pattern w : String) : w ∈ expandBraces pattern ↔ w.toList ∈ expand pattern.toList := by
  rw [expandBraces, List.mem_map]
  constructor
  · rintro ⟨cs, hcs, rfl⟩
    rwa [String.toList_ofList]
  · exact fun h => ⟨w.toList, h, String.ofList_toList⟩

/-- Expansion ends: each step opens one brace less. It leaves no pair of braces without a brace between them.
A pattern with balanced braces gives the texts that it denotes; one without groups inside groups, which is a row
of texts and groups, gives one text for each choice in all its groups, the first varying slowest. -/
theorem expansion_denotes :
    (∀ cs chain, List.IsChain Expands (cs :: chain) → chain.length ≤ opens cs) ∧
      (∀ pattern, ∀ w ∈ expandBraces pattern, ∀ a i b, Braceless i → w.toList ≠ a ++ '\x7b' :: i ++ '\x7d' :: b) ∧
      (∀ pattern : String, Balanced pattern.toList → (∃ t : Sequence false, t.text = pattern.toList) ∧
        ∀ t : Sequence false, t.text = pattern.toList →
          ∀ w, w ∈ expandBraces pattern ↔ w.toList ∈ t.denotation) ∧
      (∀ cs, ¬ Nested cs → ∃ first groups, Flat first groups ∧ rowText first groups = cs) ∧
      ∀ first groups, Flat first groups → expandBraces (String.ofList (rowText first groups)) =
        (selections (groups.map fun g => g.1.splitOn ',')).map fun chosen =>
          String.ofList (filled first groups chosen) := by
  refine ⟨fun cs chain => length_le_opens, ?_, ?_, fun cs => exists_row, ?_⟩
  · intro pattern w hw a i b hi
    exact ne_group_of_none (none_of_mem_expand ((mem_expandBraces pattern w).1 hw)) hi a b
  · intro pattern hb
    refine ⟨exists_sequence hb, fun t ht w => ?_⟩
    rw [mem_expandBraces, ← ht, expand_text, t.mem_texts_iff]
  · intro first groups hf
    rw [expandBraces, String.toList_ofList, expand_rowText hf, List.map_map]
    rfl

def choosing : Sequence false :=
  .group (.more (.sign 'a' (by decide) .done) (.last (.group
    (.more (.sign 'b' (by decide) .done) (.last (.sign 'c' (by decide) .done)))
    (.sign 'x' (by decide) .done)))) (.sign 'y' (by decide) .done)

theorem expansion_denotes_choosing :
    Balanced "\x7ba,\x7bb,c\x7dx\x7dy".toList ∧ choosing.text = "\x7ba,\x7bb,c\x7dx\x7dy".toList ∧
      "cxy" ∈ expandBraces "\x7ba,\x7bb,c\x7dx\x7dy" ∧ "by" ∉ expandBraces "\x7ba,\x7bb,c\x7dx\x7dy" ∧
      Flat [] [("a,b".toList, "-".toList), ("c,".toList, "\x7b".toList)] ∧
      expandBraces "\x7ba,b\x7d-\x7bc,\x7d\x7b" = ["a-c\x7b", "a-\x7b", "b-c\x7b", "b-\x7b"] ∧
      ¬ Nested "x\x7ba,b\x7d".toList ∧ ∃ first groups, Flat first groups ∧ rowText first groups = "x\x7ba,b\x7d".toList := by
  obtain ⟨_, _, hdenotes, hrows, hflat⟩ := expansion_denotes
  have hb : Balanced "\x7ba,\x7bb,c\x7dx\x7dy".toList := by decide
  have ht : choosing.text = "\x7ba,\x7bb,c\x7dx\x7dy".toList := by decide
  have hmem := (hdenotes _ hb).2 choosing ht
  have hrow : Flat [] [("a,b".toList, "-".toList), ("c,".toList, "\x7b".toList)] :=
    ⟨by decide, .of_not_close (by decide)⟩
  have hsimple : ¬ Nested "x\x7ba,b\x7d".toList := fun h => absurd h.two_le_opens (by decide)
  refine ⟨hb, ht, (hmem "cxy").2 ?_, fun h => ?_, hrow, (hflat _ _ hrow).trans (by decide), hsimple, hrows _ hsimple⟩
  · exact (choosing.mem_texts_iff _).1 (by decide)
  · exact absurd ((choosing.mem_texts_iff _).2 ((hmem "by").1 h)) (by decide)

end UtilityCss.Pattern
