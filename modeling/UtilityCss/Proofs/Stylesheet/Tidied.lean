import UtilityCss.Proofs.Stylesheet.Deletion

namespace UtilityCss.Stylesheet

open Text

def tidied (glue follow : Bool) (text : List Char) : List Char :=
  dropLastSemicolons (markup.squeeze glue follow text)

variable {glue follow : Bool} {c : Char} {a r text word : List Char}

theorem minifyChars_eq_tidied (cs : List Char) : minifyChars cs = tidied true true (dropComments cs) := by
  rw [minifyChars_eq, tidied, dropLastSemicolons_squeeze]

theorem tidied_nil : tidied glue follow [] = [] :=
  rfl

theorem tidied_blank (h : isBlank c = true) : tidied glue follow (c :: r) =
    if glue || markup.gives follow r then tidied glue follow r else ' ' :: tidied false follow r := by
  rw [tidied, Spacing.squeeze, blank_markup, if_pos h]
  have hspace : ' ' ≠ ';' := by decide
  split
  · rfl
  · exact dropLastSemicolons_cons fun h => absurd h hspace

theorem tidied_kept (hc : isBlank c = false) (h : c = ';' → first? r ≠ some '\x7d') :
    tidied glue follow (c :: r) = c :: tidied (isMark c) follow r := by
  rw [tidied, Spacing.squeeze_solid hc, mark_markup, dropLastSemicolons_cons, tidied]
  rintro rfl
  rw [show isMark ';' = true by decide, head?_squeeze]
  exact h rfl

theorem dropLastSemicolons_brace (r : List Char) :
    dropLastSemicolons ('\x7d' :: r) = '\x7d' :: dropLastSemicolons r :=
  dropLastSemicolons_cons nofun

theorem first_tidied (follow : Bool) (h : first? r = some '\x7d') : (tidied true follow r).head? = some '\x7d' := by
  rw [← head?_squeeze follow] at h
  obtain ⟨rest, hrest⟩ := List.head?_eq_some_iff.1 h
  rw [tidied, hrest, dropLastSemicolons_brace]
  rfl

theorem tidied_last (h : first? r = some '\x7d') : tidied glue follow (';' :: r) = tidied true follow r := by
  rw [← head?_squeeze follow] at h
  obtain ⟨rest, hrest⟩ := List.head?_eq_some_iff.1 h
  rw [tidied, tidied, Spacing.squeeze_solid (by decide), mark_markup, show isMark ';' = true by decide, hrest,
    dropLastSemicolons, dropLastSemicolons_brace]

theorem tidied_open (glue follow : Bool) (r : List Char) :
    tidied glue follow ('\x7b' :: r) = '\x7b' :: tidied true follow r :=
  tidied_kept (by decide) nofun

def isPlain (c : Char) : Bool :=
  !isBlank c && !isMark c

theorem not_isBlank_of_isPlain (h : isPlain c = true) : isBlank c = false := by
  simp only [isPlain, Bool.and_eq_true, Bool.not_eq_true'] at h
  exact h.1

theorem not_isMark_of_isPlain (h : isPlain c = true) : isMark c = false := by
  simp only [isPlain, Bool.and_eq_true, Bool.not_eq_true'] at h
  exact h.2

theorem tidied_plain (h : isPlain c = true) : tidied glue follow (c :: r) = c :: tidied false follow r := by
  rw [tidied_kept (not_isBlank_of_isPlain h), not_isMark_of_isPlain h]
  rintro rfl
  exact absurd h (by decide)

theorem tidied_append (hc : isBlank c = false) (hne : c ≠ '\x7d') (a r : List Char) :
    tidied glue follow (a ++ c :: r) = tidied glue (isMark c) a ++ tidied false follow (c :: r) := by
  have hdrop (x y : List Char) :
      dropLastSemicolons (x ++ c :: y) = dropLastSemicolons x ++ dropLastSemicolons (c :: y) := by
    fun_induction dropLastSemicolons x with
    | case1 x ih => rw [List.cons_append, List.cons_append, dropLastSemicolons, ih, List.cons_append]
    | case2 d x hx ih =>
      rw [List.cons_append, dropLastSemicolons_cons, ih, List.cons_append]
      rintro rfl
      cases x with
      | nil => simpa using hne
      | cons e x =>
        rintro ⟨⟩
        exact hx x rfl rfl
    | case3 => rfl
  rw [tidied, Spacing.squeeze_append hc, Spacing.squeeze_solid hc, hdrop, ← Spacing.squeeze_solid hc]
  rfl

theorem tidied_append_brace (h : ';' ∉ a) (r : List Char) :
    tidied glue follow (a ++ '\x7d' :: r) = tidied glue true a ++ '\x7d' :: tidied true follow r := by
  have hdrop {x : List Char} (hx : ';' ∉ x) (y : List Char) :
      dropLastSemicolons (x ++ y) = x ++ dropLastSemicolons y := by
    induction x with
    | nil => rfl
    | cons d x ih =>
      rw [List.mem_cons, not_or] at hx
      rw [List.cons_append, dropLastSemicolons_cons fun hd => absurd hd.symm hx.1, ih hx.2, List.cons_append]
  have hsqueeze : ';' ∉ markup.squeeze glue true a := by
    intro hm
    rcases Spacing.squeeze_subset glue true a _ hm with hspace | hm
    · cases hspace
    · exact h hm
  have hbare := hdrop hsqueeze []
  rw [List.append_nil, dropLastSemicolons, List.append_nil] at hbare
  rw [tidied, Spacing.squeeze_append (by decide), Spacing.squeeze_solid (by decide), mark_markup,
    show isMark '\x7d' = true by decide, hdrop hsqueeze, dropLastSemicolons_brace, tidied, tidied, hbare]

theorem mem_tidied (h : c ∈ tidied glue follow text) : c = ' ' ∨ c ∈ text := by
  have hdrop (x : List Char) : dropLastSemicolons x ⊆ x := by
    fun_induction dropLastSemicolons x with
    | case1 r ih => exact List.subset_cons_of_subset _ (List.cons_subset_cons _ ih)
    | case2 c r _ ih => exact List.cons_subset_cons _ ih
    | case3 => exact List.Subset.refl _
  exact Spacing.squeeze_subset glue follow text c (hdrop _ h)

theorem tidied_blanks (follow : Bool) (h : Blanks a) (text : List Char) :
    tidied true follow (a ++ text) = tidied true follow text := by
  have hsqueeze : markup.squeeze true follow (a ++ text) = markup.squeeze true follow text :=
    Spacing.squeeze_blanks (fun c hc => h c hc) follow text
  rw [tidied, hsqueeze, tidied]

theorem tidied_dropBlanks (text : List Char) : tidied true follow (dropBlanks text) = tidied true follow text := by
  have hblanks : Blanks (text.takeWhile isBlank) := fun c hc => List.mem_takeWhile_imp hc
  conv_rhs => rw [← List.takeWhile_append_dropWhile (p := isBlank) (l := text)]
  rw [tidied_blanks follow hblanks, dropBlanks]

theorem first_dropBlanks (text : List Char) : ∀ c ∈ (dropBlanks text).head?, isBlank c = false :=
  first_dropWhile text

theorem tidied_glue (h : ∀ c ∈ text.head?, isBlank c = false) (glue glue' : Bool) :
    tidied glue follow text = tidied glue' follow text := by
  cases text with
  | nil => rfl
  | cons c r => rw [tidied, tidied, Spacing.squeeze_solid (h c rfl), Spacing.squeeze_solid (h c rfl)]

theorem tidied_eq_leadingSpace (glue : Bool) (text : List Char) :
    tidied glue true text = leadingSpace glue text ++ tidied false true (dropBlanks text) := by
  rw [tidied, squeeze_eq_leadingSpace, dropLastSemicolons_blanks (blanks_leadingSpace glue text), ← tidied,
    ← tidied_dropBlanks, tidied_glue (first_dropBlanks text) true false]

theorem dropBlanks_tidied (glue : Bool) (text : List Char) :
    dropBlanks (tidied glue true text) = tidied false true (dropBlanks text) := by
  have hfirst : ∀ c ∈ (tidied true true text).head?, isBlank c = false := by
    rw [tidied, dropLastSemicolons_squeeze]
    exact (solid_spaced fun k hk => ((mem_positions _ k).1 hk).solid).first
  rw [← tidied_dropBlanks, tidied_glue (first_dropBlanks text) true false] at hfirst
  rw [tidied_eq_leadingSpace, dropBlanks, List.dropWhile_append_of_pos (blanks_leadingSpace glue text),
    dropWhile_of_first hfirst]

theorem after?_colon_tidied (text : List Char) :
    after? [':'] (tidied false true text) = (after? [':'] (dropBlanks text)).map (tidied true true) := by
  have hfirst := first_dropBlanks text
  rw [tidied_eq_leadingSpace, leadingSpace, first?, ← dropBlanks]
  cases hd : dropBlanks text with
  | nil =>
    rw [List.head?_nil, Option.any_none, Bool.and_false, if_neg Bool.false_ne_true]
    rfl
  | cons c r =>
    have hc : isBlank c = false := hfirst c (by rw [hd]; rfl)
    have hcolon : isMark ':' = true := by decide
    by_cases he : c = ':'
    · subst he
      rw [tidied_kept hc fun h => absurd h (by decide), hcolon]
      simp [after?, hcolon]
    · have hspace (rest : List Char) : after? [':'] (' ' :: rest) = none := rfl
      have hnone (d : Char) (hd : d ≠ ':') (rest : List Char) : after? [':'] (d :: rest) = none := by
        simp [after?, hd.symm]
      rw [hnone c he, Option.map_none]
      split
      · exact hspace _
      · rw [List.nil_append]
        by_cases hdrop : c = ';' ∧ first? r = some '\x7d'
        · obtain ⟨rfl, hbrace⟩ := hdrop
          obtain ⟨rest, hrest⟩ := List.head?_eq_some_iff.1 (first_tidied true hbrace)
          rw [tidied_last hbrace, hrest]
          exact hnone _ (by decide) _
        · rw [tidied_kept hc fun hc hbrace => hdrop ⟨hc, hbrace⟩]
          exact hnone c he _

theorem tidied_solid_ne_nil (hc : isBlank c = false) (r : List Char) : tidied glue follow (c :: r) ≠ [] := by
  by_cases hdrop : c = ';' ∧ first? r = some '\x7d'
  · obtain ⟨rfl, hbrace⟩ := hdrop
    rw [tidied_last hbrace]
    intro hnil
    have hhead := first_tidied follow hbrace
    rw [hnil] at hhead
    cases hhead
  · rw [tidied_kept hc fun hc hbrace => hdrop ⟨hc, hbrace⟩]
    exact List.cons_ne_nil _ _

theorem blanks_of_tidied (h : tidied glue follow text = []) : Blanks text := by
  induction text generalizing glue with
  | nil => exact nofun
  | cons c r ih =>
    cases hb : isBlank c with
    | true =>
      rw [tidied_blank hb] at h
      split at h
      · exact List.forall_mem_cons.2 ⟨hb, ih h⟩
      · cases h
    | false => exact absurd h (tidied_solid_ne_nil hb r)

theorem tidied_ne_nil (h : text ≠ []) : tidied false false text ≠ [] := by
  induction text with
  | nil => exact absurd rfl h
  | cons c r ih =>
    cases hb : isBlank c with
    | true =>
      rw [tidied_blank hb]
      split
      · rename_i hgives
        refine ih ?_
        rintro rfl
        cases hgives
      · exact List.cons_ne_nil _ _
    | false => exact tidied_solid_ne_nil hb r

section Words

variable {p : Char → Bool}

theorem any_head_tidied (follow : Bool) (hp : ∀ c, p c = true → isPlain c = true) (text : List Char) :
    (tidied false follow text).head?.any p = text.head?.any p := by
  have hnot {c : Char} (hc : isPlain c = false) : p c = false := by
    rw [← Bool.not_eq_true]
    intro hpc
    rw [hp c hpc] at hc
    cases hc
  induction text with
  | nil => rfl
  | cons c r ih =>
    cases hb : isBlank c with
    | true =>
      have hc : p c = false := hnot (by simp [isPlain, hb])
      rw [tidied_blank hb, Bool.false_or, List.head?_cons, Option.any_some, hc]
      split
      · rename_i hgives
        rw [ih]
        cases r with
        | nil => rfl
        | cons d r =>
          rw [Spacing.gives, blank_markup, mark_markup, Bool.or_eq_true] at hgives
          rw [List.head?_cons, Option.any_some]
          exact hnot (by rcases hgives with hd | hd <;> simp [isPlain, hd])
      · exact hnot (by decide)
    | false =>
      by_cases hdrop : c = ';' ∧ first? r = some '\x7d'
      · obtain ⟨rfl, hbrace⟩ := hdrop
        rw [tidied_last hbrace, first_tidied follow hbrace, List.head?_cons, Option.any_some, Option.any_some,
          hnot (by decide), hnot (by decide)]
      · rw [tidied_kept hb fun hc hbrace => hdrop ⟨hc, hbrace⟩, List.head?_cons, List.head?_cons]

theorem tidied_word (follow : Bool) (hw : ∀ c ∈ word, isPlain c = true) (text : List Char) :
    tidied false follow (word ++ text) = word ++ tidied false follow text := by
  induction word with
  | nil => rfl
  | cons c word ih =>
    rw [List.forall_mem_cons] at hw
    rw [List.cons_append, tidied_plain hw.1, ih hw.2, List.cons_append]

theorem tidied_of_plain (hw : ∀ c ∈ word, isPlain c = true) (glue follow : Bool) : tidied glue follow word = word := by
  have hfirst : ∀ c ∈ word.head?, isBlank c = false := fun c hc =>
    not_isBlank_of_isPlain (hw c (List.mem_of_head? hc))
  have htidy := tidied_word follow hw []
  rwa [tidied_nil, List.append_nil, tidied_glue hfirst false glue] at htidy

theorem takeWhile_tidied (follow : Bool) (hp : ∀ c, p c = true → isPlain c = true) (text : List Char) :
    (tidied false follow text).takeWhile p = text.takeWhile p ∧
      (tidied false follow text).dropWhile p = tidied false follow (text.dropWhile p) := by
  induction text with
  | nil => exact ⟨rfl, rfl⟩
  | cons c r ih =>
    cases hc : p c with
    | true => rw [tidied_plain (hp c hc)]; simp [hc, ih]
    | false =>
      have hhead := any_head_tidied follow hp (c :: r)
      rw [List.head?_cons, Option.any_some, hc] at hhead
      cases ht : tidied false follow (c :: r) with
      | nil => simp [hc, ht]
      | cons d rest =>
        rw [ht, List.head?_cons, Option.any_some] at hhead
        simp [hc, hhead, ht]

theorem after?_tidied (hw : ∀ c ∈ word, isPlain c = true) (text : List Char) :
    after? word (tidied false follow text) = (after? word text).map (tidied false follow) := by
  induction word generalizing text with
  | nil => rfl
  | cons f word ih =>
    rw [List.forall_mem_cons] at hw
    cases text with
    | nil => rfl
    | cons c r =>
      by_cases hc : f = c
      · subst hc
        rw [tidied_plain hw.1, after?, if_pos rfl, after?, if_pos rfl, ih hw.2]
      · have hhead := any_head_tidied (p := (· == f)) follow (by simpa using hw.1) (c :: r)
        rw [List.head?_cons, Option.any_some, beq_false_of_ne (Ne.symm hc)] at hhead
        rw [after?, if_neg hc, Option.map_none]
        cases ht : tidied false follow (c :: r) with
        | nil => rfl
        | cons d rest =>
          rw [ht, List.head?_cons, Option.any_some, beq_eq_false_iff_ne] at hhead
          rw [after?, if_neg (Ne.symm hhead)]

theorem apart_tidied {x y : Char} (hx : isPlain x = true) (hy : isPlain y = true) (h : Apart x y text)
    (glue follow : Bool) : Apart x y (tidied glue follow text) := by
  induction text generalizing glue with
  | nil => exact .nil
  | cons c r ih =>
    rw [apart_cons] at h
    cases hb : isBlank c with
    | true =>
      rw [tidied_blank hb]
      split
      · exact ih h.2 _
      · refine apart_cons.2 ⟨?_, ih h.2 _⟩
        rintro rfl
        exact absurd hx (by decide)
    | false =>
      by_cases hdrop : c = ';' ∧ first? r = some '\x7d'
      · obtain ⟨rfl, hbrace⟩ := hdrop
        rw [tidied_last hbrace]
        exact ih h.2 _
      · rw [tidied_kept hb fun hc hbrace => hdrop ⟨hc, hbrace⟩]
        refine apart_cons.2 ⟨?_, ih h.2 _⟩
        rintro rfl
        have hhead := any_head_tidied (p := (· == y)) follow (by simpa using hy) r
        have hr := h.1 rfl
        rw [not_isMark_of_isPlain hx]
        intro hs
        rw [hs] at hhead
        rw [Option.any_some, beq_self_eq_true, eq_comm, Option.any_eq_true] at hhead
        obtain ⟨d, hd, hdy⟩ := hhead
        exact hr (beq_iff_eq.1 hdy ▸ hd)

end Words

end UtilityCss.Stylesheet
