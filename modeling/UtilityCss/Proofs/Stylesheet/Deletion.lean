import UtilityCss.Proofs.Stylesheet.Comments

namespace UtilityCss.Stylesheet

open Text

def between (text : List Char) (i j : Nat) : List Char :=
  (text.take j).drop (i + 1)

def Closes (text : List Char) (i : Nat) : Prop :=
  ∃ j, i < j ∧ text[j]? = some '\x7d' ∧ Blanks (between text i j)

structure Kept (text : List Char) (i : Nat) : Prop where
  solid : ∃ c ∈ text[i]?, isBlank c = false
  needed : text[i]? = some ';' → ¬ Closes text i

def gap (text : List Char) (i j : Nat) : List Char :=
  if (between text i j).any isBlank && !text[i]?.any isMark && !text[j]?.any isMark then [' '] else []

def spaced (text : List Char) : List Nat → List Char
  | [] => []
  | [i] => text[i]?.toList
  | i :: j :: ks => text[i]?.toList ++ gap text i j ++ spaced text (j :: ks)

def first? (text : List Char) : Option Char :=
  (text.dropWhile isBlank).head?

def positions : List Char → List Nat
  | [] => []
  | c :: r =>
    if isBlank c ∨ c = ';' ∧ first? r = some '\x7d' then (positions r).map (· + 1)
    else 0 :: (positions r).map (· + 1)

variable {c d : Char} {r text : List Char}

theorem first?_blank (h : isBlank c = true) (r : List Char) : first? (c :: r) = first? r := by
  rw [first?, List.dropWhile_cons_of_pos h, ← first?]

theorem first?_solid (h : isBlank c = false) (r : List Char) : first? (c :: r) = some c := by
  rw [first?, List.dropWhile_cons_of_neg (by simp [h]), List.head?_cons]

theorem first?_eq_some_iff : first? text = some d ↔
    isBlank d = false ∧ ∃ m, text[m]? = some d ∧ Blanks (text.take m) := by
  induction text with
  | nil => simp [first?]
  | cons c r ih =>
    cases hc : isBlank c with
    | true =>
      rw [first?_blank hc, ih, and_congr_right_iff]
      intro hd
      constructor
      · rintro ⟨m, hm, hb⟩
        exact ⟨m + 1, hm, List.forall_mem_cons.2 ⟨hc, hb⟩⟩
      · rintro ⟨m, hm, hb⟩
        cases m with
        | zero =>
          cases hm
          rw [hc] at hd
          cases hd
        | succ m => exact ⟨m, hm, (List.forall_mem_cons.1 hb).2⟩
    | false =>
      rw [first?_solid hc, Option.some_inj]
      constructor
      · rintro rfl
        exact ⟨hc, 0, rfl, nofun⟩
      · rintro ⟨_, m, hm, hb⟩
        cases m with
        | zero => exact Option.some_inj.1 hm
        | succ m =>
          have hblank := hb c (List.mem_cons_self ..)
          rw [hc] at hblank
          cases hblank

theorem closes_zero : Closes (c :: r) 0 ↔ first? r = some '\x7d' := by
  have hbrace : isBlank '\x7d' = false := by decide
  rw [first?_eq_some_iff]
  constructor
  · rintro ⟨j, hj, hclose, hb⟩
    obtain ⟨m, rfl⟩ := Nat.exists_eq_succ_of_ne_zero hj.ne'
    exact ⟨hbrace, m, hclose, hb⟩
  · rintro ⟨_, m, hclose, hb⟩
    exact ⟨m + 1, Nat.succ_pos m, hclose, hb⟩

theorem closes_succ (i : Nat) : Closes (c :: r) (i + 1) ↔ Closes r i := by
  constructor
  · rintro ⟨j, hj, hclose, hb⟩
    obtain ⟨j, rfl⟩ := Nat.exists_eq_succ_of_ne_zero (Nat.ne_zero_of_lt hj)
    exact ⟨j, Nat.lt_of_succ_lt_succ hj, hclose, hb⟩
  · rintro ⟨j, hj, hclose, hb⟩
    exact ⟨j + 1, Nat.succ_lt_succ hj, hclose, hb⟩

theorem kept_zero : Kept (c :: r) 0 ↔ ¬ (isBlank c ∨ c = ';' ∧ first? r = some '\x7d') := by
  rw [← closes_zero, not_or, not_and]
  constructor
  · rintro ⟨⟨d, hd, hsolid⟩, hneeded⟩
    cases hd
    exact ⟨by simp [hsolid], fun hc => hneeded (congrArg some hc)⟩
  · rintro ⟨hsolid, hneeded⟩
    exact ⟨⟨c, rfl, by simpa using hsolid⟩, fun hc => hneeded (Option.some_inj.1 hc)⟩

theorem kept_succ (i : Nat) : Kept (c :: r) (i + 1) ↔ Kept r i := by
  constructor
  · rintro ⟨hsolid, hneeded⟩
    exact ⟨hsolid, fun hc hr => hneeded hc ((closes_succ i).2 hr)⟩
  · rintro ⟨hsolid, hneeded⟩
    exact ⟨hsolid, fun hc hr => hneeded hc ((closes_succ i).1 hr)⟩

theorem mem_positions (text : List Char) (i : Nat) : i ∈ positions text ↔ Kept text i := by
  induction text generalizing i with
  | nil =>
    constructor
    · nofun
    · rintro ⟨⟨c, hc, _⟩, _⟩
      cases hc
  | cons c r ih =>
    rw [positions]
    cases i with
    | zero =>
      rw [kept_zero]
      split <;> simp [*]
    | succ i =>
      rw [kept_succ, ← ih]
      split <;> simp

theorem pairwise_positions (text : List Char) : (positions text).Pairwise (· < ·) := by
  induction text with
  | nil => exact .nil
  | cons c r ih =>
    have hnext : ((positions r).map (· + 1)).Pairwise (· < ·) := List.pairwise_map.2 (ih.imp Nat.succ_lt_succ)
    rw [positions]
    split
    · exact hnext
    · exact List.pairwise_cons.2 ⟨List.forall_mem_map.2 fun k _ => Nat.succ_pos k, hnext⟩

theorem gap_succ (c : Char) (r : List Char) (i j : Nat) : gap (c :: r) (i + 1) (j + 1) = gap r i j :=
  rfl

theorem spaced_succ (c : Char) (r : List Char) (ks : List Nat) : spaced (c :: r) (ks.map (· + 1)) = spaced r ks := by
  fun_induction spaced r ks with
  | case1 => rfl
  | case2 i => rfl
  | case3 i j ks ih =>
    rw [List.map_cons] at ih
    rw [List.map_cons, List.map_cons, spaced, gap_succ, ih]
    rfl

theorem first_position {k : Nat} {ks : List Nat} (h : positions text = k :: ks) :
    ∃ d, first? text = some d ∧
      (text[k]? = some d ∧ Blanks (text.take k) ∨ d = ';' ∧ text[k]? = some '\x7d') := by
  induction text generalizing k ks with
  | nil => cases h
  | cons c r ih =>
    rw [positions] at h
    split at h
    · rename_i hc
      obtain ⟨k, ks, hr, rfl, _⟩ := List.map_eq_cons_iff.1 h
      obtain ⟨d, hd, hfirst⟩ := ih hr
      rcases hc with hc | ⟨rfl, hbrace⟩
      · refine ⟨d, (first?_blank hc r).trans hd, hfirst.imp_left fun ⟨hk, hb⟩ => ⟨hk, ?_⟩⟩
        exact List.forall_mem_cons.2 ⟨hc, hb⟩
      · refine ⟨';', first?_solid (by decide) r, .inr ⟨rfl, ?_⟩⟩
        rw [hbrace] at hd
        cases hd
        rcases hfirst with ⟨hk, _⟩ | ⟨hd, _⟩
        · exact hk
        · cases hd
    · rename_i hc
      cases h
      rw [not_or, Bool.not_eq_true] at hc
      exact ⟨c, first?_solid hc.1 r, .inl ⟨rfl, nofun⟩⟩

theorem first?_of_positions_nil (h : positions text = []) : first? text = none := by
  induction text with
  | nil => rfl
  | cons c r ih =>
    rw [positions] at h
    split at h
    · rename_i hc
      have hr := ih (List.map_eq_nil_iff.1 h)
      rcases hc with hc | ⟨_, hbrace⟩
      · exact (first?_blank hc r).trans hr
      · rw [hr] at hbrace
        cases hbrace
    · cases h

def leadingSpace (glue : Bool) (text : List Char) : List Char :=
  if text.head?.any isBlank && !glue && (first? text).any (!isMark ·) then [' '] else []

theorem gap_first {k : Nat} {ks : List Nat} (h : positions r = k :: ks) (c : Char) :
    gap (c :: r) 0 (k + 1) = leadingSpace (isMark c) r := by
  have hbetween : between (c :: r) 0 (k + 1) = r.take k := rfl
  have hnext : (c :: r)[k + 1]? = r[k]? := rfl
  have hc : (c :: r)[0]? = some c := rfl
  obtain ⟨d, hd, ⟨hk, hb⟩ | ⟨rfl, hk⟩⟩ := first_position h
  · have hblank : (r.take k).any isBlank = r.head?.any isBlank := by
      cases k with
      | zero =>
        have hsolid := (first?_eq_some_iff.1 hd).1
        rw [List.head?_eq_getElem?, hk]
        simp [hsolid]
      | succ k =>
        cases r with
        | nil => rfl
        | cons x r =>
          have hx := hb x (List.mem_cons_self ..)
          simp [hx]
    rw [gap, leadingSpace, hbetween, hblank, hc, hnext, hk, hd, Option.any_some, Option.any_some, Option.any_some]
  · have hsemicolon : isMark ';' = true := by decide
    have hbrace : isMark '\x7d' = true := by decide
    rw [gap, leadingSpace, hnext, hk, hd]
    simp [hsemicolon, hbrace]

theorem leadingSpace_solid (h : isBlank c = false) (glue : Bool) (r : List Char) : leadingSpace glue (c :: r) = [] := by
  simp [leadingSpace, h]

theorem leadingSpace_true (text : List Char) : leadingSpace true text = [] := by
  simp [leadingSpace]

theorem leadingSpace_blank (h : isBlank c = true) (r : List Char) :
    leadingSpace false (c :: r) = if (first? r).any (!isMark ·) then [' '] else [] := by
  simp [leadingSpace, h, first?_blank h]

theorem squeeze_eq_leadingSpace (glue : Bool) (text : List Char) :
    markup.squeeze glue true text = leadingSpace glue text ++ markup.squeeze true true text := by
  cases glue with
  | true => rw [leadingSpace_true, List.nil_append]
  | false =>
    induction text with
    | nil => rfl
    | cons c r ih =>
      cases hc : isBlank c with
      | false =>
        rw [leadingSpace_solid hc, Spacing.squeeze_solid hc, Spacing.squeeze_solid hc, List.nil_append]
      | true =>
        rw [leadingSpace_blank hc, Spacing.squeeze, Spacing.squeeze, blank_markup, if_pos hc, if_pos hc, Bool.true_or,
          if_pos rfl, Bool.false_or]
        cases r with
        | nil => rfl
        | cons d r =>
          rw [Spacing.gives, blank_markup, mark_markup, ih]
          cases hd : isBlank d with
          | true => rw [Bool.true_or, if_pos rfl, leadingSpace_blank hd, first?_blank hd]
          | false =>
            rw [leadingSpace_solid hd, first?_solid hd, Option.any_some, Bool.false_or, List.nil_append]
            cases isMark d <;> rfl

theorem blanks_leadingSpace (glue : Bool) (text : List Char) : Blanks (leadingSpace glue text) := by
  rw [leadingSpace]
  split <;> decide

theorem head?_squeeze (follow : Bool) (text : List Char) : (markup.squeeze true follow text).head? = first? text := by
  induction text with
  | nil => rfl
  | cons c r ih =>
    cases hc : isBlank c with
    | true => rw [Spacing.squeeze, blank_markup, if_pos hc, Bool.true_or, if_pos rfl, first?_blank hc, ih]
    | false => rw [Spacing.squeeze_solid hc, first?_solid hc, List.head?_cons]

theorem dropLastSemicolons_kept (h : ¬ (c = ';' ∧ first? r = some '\x7d')) :
    dropLastSemicolons (c :: markup.squeeze (isMark c) true r) =
      c :: (leadingSpace (isMark c) r ++ dropLastSemicolons (markup.squeeze true true r)) := by
  rw [squeeze_eq_leadingSpace, dropLastSemicolons_cons, dropLastSemicolons_blanks (blanks_leadingSpace _ r)]
  rintro rfl
  have hsemicolon : isMark ';' = true := by decide
  rw [hsemicolon, leadingSpace_true, List.nil_append, head?_squeeze]
  exact fun hbrace => h ⟨rfl, hbrace⟩

theorem dropLastSemicolons_squeeze (text : List Char) :
    dropLastSemicolons (markup.squeeze true true text) = spaced text (positions text) := by
  -- a dropped character leaves no trace, a kept one stands in front of what the blanks behind it leave
  induction text with
  | nil => rfl
  | cons c r ih =>
    rw [positions]
    split
    · rename_i hdrop
      rw [spaced_succ, ← ih]
      rcases hdrop with hc | ⟨rfl, hbrace⟩
      · rw [Spacing.squeeze, blank_markup, if_pos hc, Bool.true_or, if_pos rfl]
      · have hsemicolon : isMark ';' = true := by decide
        rw [Spacing.squeeze_solid (by decide), mark_markup, hsemicolon]
        rw [← head?_squeeze] at hbrace
        obtain ⟨rest, hrest⟩ := List.head?_eq_some_iff.1 hbrace
        rw [hrest, dropLastSemicolons, dropLastSemicolons_cons (by simp)]
    · rename_i hkeep
      rw [not_or, Bool.not_eq_true] at hkeep
      rw [Spacing.squeeze_solid hkeep.1, mark_markup, dropLastSemicolons_kept hkeep.2, ih]
      cases hp : positions r with
      | nil =>
        have hnone := first?_of_positions_nil hp
        simp [spaced, leadingSpace, hnone]
      | cons k ks =>
        rw [List.map_cons, spaced, gap_first hp, ← spaced_succ c r (k :: ks), List.map_cons]
        rfl

theorem head?_spaced {k : Nat} (h : text[k]? = some c) (ks : List Nat) : (spaced text (k :: ks)).head? = some c := by
  cases ks with
  | nil => simp [spaced, h]
  | cons j ks => simp [spaced, h]

theorem solid_spaced {ks : List Nat} (h : ∀ k ∈ ks, ∃ c ∈ text[k]?, isBlank c = false) : Solid (spaced text ks) := by
  have hsolid : ∀ k ∈ ks, ∀ c ∈ text[k]?, isBlank c = false := by
    intro k hk c hc
    obtain ⟨d, hd, hblank⟩ := h k hk
    rw [Option.mem_def] at hc hd
    rw [hd] at hc
    cases hc
    exact hblank
  constructor
  · cases ks with
    | nil => nofun
    | cons k ks =>
      obtain ⟨c, hc, hblank⟩ := h k (List.mem_cons_self ..)
      rw [head?_spaced hc]
      rintro _ ⟨⟩
      exact hblank
  · fun_induction spaced text ks with
    | case1 => nofun
    | case2 i =>
      intro c hc
      apply hsolid i (List.mem_cons_self ..) c
      cases ht : text[i]? with
      | none => simp [ht] at hc
      | some d => simpa [ht] using hc
    | case3 i j ks ih =>
      obtain ⟨c, hc, _⟩ := h j (by simp)
      obtain ⟨rest, hrest⟩ := List.head?_eq_some_iff.1 (head?_spaced hc ks)
      rw [List.getLast?_append_of_ne_nil _ (by simp [hrest])]
      exact ih (fun k hk => h k (List.mem_cons_of_mem i hk)) fun k hk => hsolid k (List.mem_cons_of_mem i hk)

theorem squeeze_false_eq (glue : Bool) (text : List Char) : ∃ back, Blanks back ∧
    markup.squeeze glue false text = markup.squeeze glue true text ++ back := by
  induction text generalizing glue with
  | nil => exact ⟨[], nofun, rfl⟩
  | cons c r ih =>
    cases hc : isBlank c with
    | false =>
      obtain ⟨back, hback, hr⟩ := ih (isMark c)
      exact ⟨back, hback, by rw [Spacing.squeeze_solid hc, Spacing.squeeze_solid hc, mark_markup, hr, List.cons_append]⟩
    | true =>
      rw [Spacing.squeeze, Spacing.squeeze, blank_markup, if_pos hc, if_pos hc]
      cases r with
      | nil => cases glue <;> exact ⟨_, by decide, rfl⟩
      | cons d r =>
        rw [Spacing.gives, Spacing.gives]
        split
        · exact ih glue
        · obtain ⟨back, hback, hr⟩ := ih false
          exact ⟨back, hback, by rw [hr, List.cons_append]⟩

theorem dropLastSemicolons_append_blanks {back : List Char} (h : Blanks back) (text : List Char) :
    dropLastSemicolons (text ++ back) = dropLastSemicolons text ++ back := by
  have hback : dropLastSemicolons back = back := by
    have hall := dropLastSemicolons_blanks h []
    rwa [List.append_nil, dropLastSemicolons, List.append_nil] at hall
  fun_induction dropLastSemicolons text with
  | case1 r ih => rw [List.cons_append, List.cons_append, dropLastSemicolons, ih, List.cons_append]
  | case2 c r hr ih =>
    rw [List.cons_append, dropLastSemicolons_cons, ih, List.cons_append]
    intro hc
    apply head?_append_ne
    · intro hs
      obtain ⟨r, rfl⟩ := List.head?_eq_some_iff.1 hs
      exact hr r hc rfl
    · exact h.head?_ne (by decide)
  | case3 => exact hback

theorem minifyChars_eq (cs : List Char) : minifyChars cs = spaced (dropComments cs) (positions (dropComments cs)) := by
  obtain ⟨front, hfront, hsqueeze⟩ := squeeze_false false (dropComments cs)
  obtain ⟨back, hback, hfollow⟩ := squeeze_false_eq true (dropComments cs)
  have hsolid : Solid (spaced (dropComments cs) (positions (dropComments cs))) :=
    solid_spaced fun k hk => ((mem_positions _ k).1 hk).solid
  rw [minifyChars, tighten_collapse, hsqueeze, dropLastSemicolons_blanks hfront, trim_blanks_append hfront, hfollow,
    dropLastSemicolons_append_blanks hback, trim_append_blanks _ hback, dropLastSemicolons_squeeze, hsolid.trim]

/-- Every text has a form without comments, and minified it is the characters kept of that form, in order, with one
space where blanks were between two that are no marks. -/
theorem minify_deletes (css : String) : (∃ left, Uncommented css.toList left) ∧
    ∀ left, Uncommented css.toList left → ∃ ks : List Nat, ks.Pairwise (· < ·) ∧ (∀ i, i ∈ ks ↔ Kept left i) ∧
      (minify css).toList = spaced left ks := by
  refine ⟨⟨_, uncommented_dropComments css.toList⟩, fun left h => ?_⟩
  rw [h.eq, minify, String.toList_ofList, minifyChars_eq]
  exact ⟨_, pairwise_positions _, mem_positions _, rfl⟩

theorem Uncommented.of_apart (h : Apart '*' '/' text) : Uncommented text text := by
  apply plain
  rintro a b rfl
  exact (List.isChain_append.1 h).2.1.tail.tail

def unclosed : String :=
  " .a/*; \x7d*/ \x7b\n b : c /**/ d ;; \u00a0\x7d /* e"

def unclosedLeft : List Char :=
  " .a \x7b\n b : c  d ;; \u00a0\x7d /* e".toList

theorem minify_deletes_unclosed : Uncommented unclosed.toList unclosedLeft ∧ minify unclosed = ".a\x7bb:c d;\x7d/* e" ∧
    ∃ ks : List Nat, ks.Pairwise (· < ·) ∧ (∀ i, i ∈ ks ↔ Kept unclosedLeft i) ∧
      (minify unclosed).toList = spaced unclosedLeft ks := by
  have htext : unclosed.toList = " .a".toList ++ '/' :: '*' :: ("; \x7d".toList ++ '*' :: '/' ::
      (" \x7b\n b : c ".toList ++ '/' :: '*' :: ([] ++ '*' :: '/' :: " d ;; \u00a0\x7d /* e".toList))) := by
    decide +kernel
  have hleft : unclosedLeft = " .a".toList ++ (" \x7b\n b : c ".toList ++ " d ;; \u00a0\x7d /* e".toList) := by
    decide +kernel
  have hlast : Apart '*' '/' " d ;; \u00a0\x7d /* e".toList := by decide +kernel
  have huncommented : Uncommented unclosed.toList unclosedLeft := by
    rw [htext, hleft]
    exact .comment (by decide) (by decide) (.comment (by decide) .nil (.of_apart hlast))
  refine ⟨huncommented, ?_, (minify_deletes unclosed).2 _ huncommented⟩
  rw [minify, minifyChars, ← huncommented.eq]
  decide +kernel

end UtilityCss.Stylesheet
