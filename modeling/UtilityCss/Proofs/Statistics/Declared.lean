import UtilityCss.Proofs.Statistics.Collected
import UtilityCss.Proofs.Text.Search

namespace UtilityCss.Stylesheet.Statistics

open Text

def valued? (cs : List Char) : Option ((List Char × List Char) × List Char) :=
  (propertyName? cs).bind fun p => (after? [':'] (dropBlanks p.2)).bind fun r =>
    (valueEnd? r).map ((p.1, r.takeWhile (!isStop ·)), ·)

def fresh? (before : Option Char) (cs : List Char) : Option ((List Char × List Char) × List Char) :=
  if before.any isWordOrHyphen then none else valued? cs

def declared (cs : List Char) : List (List Char × List Char) :=
  collect fresh? none cs

theorem collect_map {α β : Type} {read? : Option Char → List Char → Option (α × List Char)}
    {read'? : Option Char → List Char → Option (β × List Char)} {f : α → β}
    (h : ∀ before cs, read'? before cs = (read? before cs).map (Prod.map f id)) (before : Option Char)
    (cs : List Char) : collect read'? before cs = (collect read? before cs).map f := by
  fun_induction collect read? before cs with
  | case1 before => rw [collect]; rfl
  | case2 before c r x rest hx hl ih =>
    have hread := h before (c :: r)
    rw [hx] at hread
    rw [collect, hread]
    dsimp only [Option.map_some, Prod.map, id]
    rw [dif_pos hl, ih, List.map_cons]
  | case3 before c r x rest hx hl ih =>
    have hread := h before (c :: r)
    rw [hx] at hread
    rw [collect, hread]
    dsimp only [Option.map_some, Prod.map, id]
    rw [dif_neg hl, ih, List.map_cons]
  | case4 before c r hx ih =>
    have hread := h before (c :: r)
    rw [hx] at hread
    rw [collect, hread]
    exact ih

theorem declaration?_eq (cs : List Char) : declaration? cs = (propertyName? cs).bind fun p =>
    (after? [':'] (dropBlanks p.2)).bind fun r => (valueEnd? r).map (p.1, ·) := by
  rw [declaration?]
  congr 1
  funext p
  split
  · rename_i hr
    rw [hr, after?_single, Option.bind_some]
  · rename_i hr
    rw [after?_eq_none hr, Option.bind_none]

theorem properties_eq (cs : List Char) : properties cs = (declared cs).map Prod.fst := by
  apply collect_map
  intro before cs
  rw [fresh?]
  split
  · rfl
  · rw [declaration?_eq, valued?]
    cases propertyName? cs with
    | none => rfl
    | some p =>
      rw [Option.bind_some, Option.bind_some]
      cases after? [':'] (dropBlanks p.2) with
      | none => rfl
      | some r =>
        rw [Option.bind_some, Option.bind_some, Option.map_map]
        rfl

def Unstopped (text : List Char) : Prop :=
  ∀ c ∈ text, isStop c = false

variable {c : Char} {run : List Char} {before : Option Char}

def startsName (cs : List Char) : Bool :=
  (cs.takeWhile (· == '-')).length ≤ 2 && (cs.dropWhile (· == '-')).head?.any isAsciiLetter

theorem isWordOrHyphen_of_isAsciiLetter (h : isAsciiLetter c = true) : isWordOrHyphen c = true := by
  have hlt : c.toNat < 0x80 := by
    have hbelow {d : Char} (hd : d.toNat < 0x80) (hc : c ≤ d) : c.toNat < 0x80 := Nat.lt_of_le_of_lt hc hd
    simp only [isAsciiLetter, Bool.or_eq_true, Bool.and_eq_true, decide_eq_true_eq] at h
    rcases h with ⟨_, h⟩ | ⟨_, h⟩
    · exact hbelow (by decide) h
    · exact hbelow (by decide) h
  rw [isWordOrHyphen, isWordChar, if_pos hlt, h]
  rfl

theorem propertyName?_eq (cs : List Char) : propertyName? cs =
    if startsName cs then some (cs.takeWhile isWordOrHyphen, cs.dropWhile isWordOrHyphen) else none := by
  have hsplit := List.takeWhile_append_dropWhile (p := (· == '-')) (l := cs)
  have hhyphens : ∀ c ∈ cs.takeWhile (· == '-'), isWordOrHyphen c = true := by
    intro c hc
    rw [beq_iff_eq.1 (List.mem_takeWhile_imp (p := (· == '-')) hc)]
    decide
  rw [propertyName?, startsName]
  generalize cs.takeWhile (· == '-') = hyphens at *
  generalize cs.dropWhile (· == '-') = r at *
  subst hsplit
  rw [List.drop_left, List.take_left, List.takeWhile_append_of_pos hhyphens, List.dropWhile_append_of_pos hhyphens]
  cases r with
  | nil => simp
  | cons c r =>
    cases hc : isAsciiLetter c with
    | true => simp [hc, isWordOrHyphen_of_isAsciiLetter hc]
    | false => simp [hc]

theorem propertyName?_append (h : isWordOrHyphen c = false) (a b : List Char) :
    propertyName? (a ++ c :: b) = (propertyName? a).map fun p => (p.1, p.2 ++ c :: b) := by
  have hhyphen : (c == '-') = false := by
    rw [isWordOrHyphen, Bool.or_eq_false_iff] at h
    exact h.2
  have hletter : isAsciiLetter c = false := by
    rw [← Bool.not_eq_true] at h ⊢
    exact fun hc => h (isWordOrHyphen_of_isAsciiLetter hc)
  have hstarts : startsName (a ++ c :: b) = startsName a := by
    have hdash := takeWhile_append_cons (p := (· == '-')) hhyphen a b
    rw [startsName, startsName, hdash.1, hdash.2]
    cases a.dropWhile (· == '-') with
    | nil => simp [hletter]
    | cons d r => rfl
  have hname := takeWhile_append_cons h a b
  rw [propertyName?_eq, propertyName?_eq, hstarts, hname.1, hname.2]
  split <;> rfl

theorem propertyName?_tidied (text : List Char) : propertyName? (tidied false true text) =
    (propertyName? text).map (Prod.map id (tidied false true)) := by
  have hdash : ∀ c, (c == '-') = true → isPlain c = true := by
    intro c hc
    rw [beq_iff_eq.1 hc]
    decide
  have hletter : ∀ c, isAsciiLetter c = true → isPlain c = true := fun c hc =>
    isPlain_of_isWordOrHyphen (isWordOrHyphen_of_isAsciiLetter hc)
  have hhyphens := takeWhile_tidied true hdash text
  have hname := takeWhile_tidied true (fun c => isPlain_of_isWordOrHyphen (c := c)) text
  have hstarts : startsName (tidied false true text) = startsName text := by
    rw [startsName, startsName, hhyphens.1, hhyphens.2, any_head_tidied true hletter]
  rw [propertyName?_eq, propertyName?_eq, hstarts, hname.1, hname.2]
  split <;> rfl

def declaredAt? (run : List Char) : Option (List Char × List Char) :=
  (propertyName? run).bind fun p => (after? [':'] (dropBlanks p.2)).bind fun value =>
    if value.isEmpty then none else some (p.1, value)

def declaredIn? (named : Bool) : List Char → Option (List Char × List Char)
  | [] => none
  | c :: r => (if named then none else declaredAt? (c :: r)).or (declaredIn? (isWordOrHyphen c) r)

theorem stop_spec (h : isStop c = true) : isWordOrHyphen c = false ∧ isBlank c = false ∧ c ≠ ':' := by
  have hall : ∀ d ∈ [';', '\x7b', '\x7d'], isWordOrHyphen d = false ∧ isBlank d = false ∧ d ≠ ':' := by
    decide +kernel
  exact hall c (by simpa [isStop, or_assoc] using h)

theorem Unstopped.takeWhile (h : Unstopped run) (hc : isStop c = true) (rest : List Char) :
    (run ++ c :: rest).takeWhile (!isStop ·) = run ∧ (run ++ c :: rest).dropWhile (!isStop ·) = c :: rest := by
  have hrun : ∀ d ∈ run, (!isStop d) = true := fun d hd => by rw [h d hd]; rfl
  rw [List.takeWhile_append_of_pos hrun, List.dropWhile_append_of_pos hrun]
  simp [hc]

theorem valueEnd?_run (hr : Unstopped run) (hc : isStop c = true) (rest : List Char) :
    valueEnd? (run ++ c :: rest) = if c = '\x7b' ∨ run = [] then none else some (c :: rest) := by
  rw [valueEnd?, (hr.takeWhile hc rest).2]
  dsimp only
  cases run with
  | nil => simp [hc]
  | cons d run => simp [hr d (List.mem_cons_self ..)]

theorem propertyName?_spec {p : List Char × List Char} (h : propertyName? run = some p) :
    run = p.1 ++ p.2 ∧ ∀ c ∈ p.1, isWordOrHyphen c = true := by
  rw [propertyName?_eq] at h
  split at h
  · cases h
    exact ⟨List.takeWhile_append_dropWhile.symm, fun c hc => List.mem_takeWhile_imp hc⟩
  · cases h

theorem valued?_run (hr : Unstopped run) (hc : isStop c = true) (rest : List Char) :
    valued? (run ++ c :: rest) = if c = '\x7b' then none else (declaredAt? run).map (·, c :: rest) := by
  obtain ⟨hname, hblank, hcolon⟩ := stop_spec hc
  rw [valued?, declaredAt?, propertyName?_append hname]
  cases hp : propertyName? run with
  | none => simp
  | some p =>
    rw [Option.map_some, Option.bind_some, Option.bind_some, dropBlanks_append_cons hblank,
      after?_append_cons hcolon]
    cases hv : after? [':'] (dropBlanks p.2) with
    | none => simp
    | some value =>
      obtain ⟨gap, _, hgap⟩ := exists_blanks hv
      have hvalue : Unstopped value := by
        intro d hd
        apply hr d
        rw [(propertyName?_spec hp).1, hgap]
        simp [hd]
      rw [Option.map_some, Option.bind_some, Option.bind_some, valueEnd?_run hvalue hc, (hvalue.takeWhile hc rest).1]
      by_cases hopen : c = '\x7b' <;> cases value <;> simp [hopen]

theorem declaredAt?_spec {d : List Char × List Char} (h : declaredAt? run = some d) :
    ∃ gap, Blanks gap ∧ run = d.1 ++ (gap ++ [':'] ++ d.2) ∧ ∀ c ∈ d.1, isWordOrHyphen c = true := by
  simp only [declaredAt?, Option.bind_eq_some_iff] at h
  obtain ⟨p, hp, value, hv, h⟩ := h
  obtain ⟨hrun, hname⟩ := propertyName?_spec hp
  obtain ⟨gap, hgap, hbehind⟩ := exists_blanks hv
  split at h
  · cases h
  · cases h
    exact ⟨gap, hgap, hrun.trans (congrArg _ hbehind), hname⟩

theorem collect_fresh? (h : before.any isWordOrHyphen = false) (cs : List Char) :
    collect fresh? before cs = declared cs := by
  rw [declared]
  cases cs with
  | nil => rw [collect, collect]
  | cons c r => rw [collect, collect, fresh?, h, fresh?, Option.any_none]

theorem fresh?_run (hr : Unstopped run) (hc : isStop c = true) (rest : List Char) (before : Option Char) :
    fresh? before (run ++ c :: rest) =
      if c = '\x7b' then none
      else (if before.any isWordOrHyphen then none else declaredAt? run).map (·, c :: rest) := by
  rw [fresh?, valued?_run hr hc]
  split
  · rw [Option.map_none, ite_self]
  · rfl

theorem collect_stop (hc : isStop c = true) (before : Option Char) (rest : List Char) :
    collect fresh? before (c :: rest) = declared rest := by
  have hnone : fresh? before (c :: rest) = none := by
    have hrun := @fresh?_run _ [] nofun hc rest before
    have hnil : declaredAt? [] = none := rfl
    rw [List.nil_append, hnil, ite_self, Option.map_none, ite_self] at hrun
    exact hrun
  have hc' : (some c).any isWordOrHyphen = false := (stop_spec hc).1
  rw [collect, hnone]
  exact collect_fresh? hc' rest

theorem collect_run (hr : Unstopped run) (hc : isStop c = true) (before : Option Char) (rest : List Char) :
    collect fresh? before (run ++ c :: rest) =
      (if c = '\x7b' then none else declaredIn? (before.any isWordOrHyphen) run).toList ++ declared rest := by
  induction run generalizing before with
  | nil =>
    rw [List.nil_append, collect_stop hc, declaredIn?, ite_self]
    rfl
  | cons d run ih =>
    have hrun : Unstopped run := (List.forall_mem_cons.1 hr).2
    have hread := fresh?_run hr hc rest before
    have hnext := ih hrun (some d)
    rw [Option.any_some] at hnext
    rw [List.cons_append] at hread
    rw [List.cons_append, collect, hread, declaredIn?]
    by_cases hopen : c = '\x7b'
    · rw [if_pos hopen] at hnext
      rw [if_pos hopen, if_pos hopen]
      exact hnext
    · rw [if_neg hopen] at hnext
      rw [if_neg hopen, if_neg hopen]
      cases (if before.any isWordOrHyphen then none else declaredAt? (d :: run)) with
      | none => exact hnext
      | some found =>
        rw [Option.map_some]
        dsimp only
        rw [dif_pos (by simp), collect_stop hc]
        rfl

theorem valued?_unstopped (hr : Unstopped run) : valued? run = none := by
  rw [Option.eq_none_iff_forall_ne_some]
  intro d hd
  simp only [valued?, Option.bind_eq_some_iff] at hd
  obtain ⟨p, hp, value, hv, hd⟩ := hd
  obtain ⟨gap, _, hgap⟩ := exists_blanks hv
  have hnone : value.dropWhile (!isStop ·) = [] := by
    rw [List.dropWhile_eq_nil_iff]
    intro c hc
    rw [hr c (by rw [(propertyName?_spec hp).1, hgap]; simp [hc])]
    rfl
  rw [valueEnd?, hnone] at hd
  cases hd

theorem collect_unstopped (hr : Unstopped run) (before : Option Char) : collect fresh? before run = [] := by
  induction run generalizing before with
  | nil => rw [collect]
  | cons c run ih =>
    have hnone : fresh? before (c :: run) = none := by rw [fresh?, valued?_unstopped hr, ite_self]
    rw [collect, hnone]
    exact ih (List.forall_mem_cons.1 hr).2 _

def tidiedDeclaration? (d : List Char × List Char) : Option (List Char × List Char) :=
  if d.2.all isBlank then none else some (d.1, tidied true true d.2)

theorem declaredAt?_tidied (text : List Char) :
    declaredAt? (tidied false true text) = (declaredAt? text).bind tidiedDeclaration? := by
  rw [declaredAt?, declaredAt?, propertyName?_tidied]
  cases propertyName? text with
  | none => rfl
  | some p =>
    have hblanks : dropBlanks (dropBlanks p.2) = dropBlanks p.2 := dropWhile_of_first (first_dropBlanks p.2)
    rw [Option.map_some, Option.bind_some, Option.bind_some, Prod.map, dropBlanks_tidied, after?_colon_tidied, hblanks]
    cases after? [':'] (dropBlanks p.2) with
    | none => rfl
    | some value =>
      rw [Option.map_some, Option.bind_some, Option.bind_some]
      by_cases hvalue : value.all isBlank = true
      · have hempty : tidied true true value = [] := by
          have hb := tidied_blanks true (List.all_eq_true.1 hvalue) []
          rwa [List.append_nil] at hb
        rw [hempty, List.isEmpty_nil, if_pos rfl]
        split
        · rfl
        · rw [Option.bind_some, tidiedDeclaration?, if_pos hvalue]
      · have hne : value ≠ [] := by
          rintro rfl
          exact hvalue rfl
        have hkept : tidied true true value ≠ [] := fun h => hvalue (List.all_eq_true.2 (blanks_of_tidied h))
        rw [if_neg (by simpa using hkept), if_neg (by simpa using hne), Option.bind_some, tidiedDeclaration?,
          if_neg hvalue]
        rfl

theorem declaredIn?_skip (h : isPlain c = false) (named : Bool) (r : List Char) :
    declaredIn? named (c :: r) = declaredIn? false r := by
  have hword : isWordOrHyphen c = false := by
    rw [← Bool.not_eq_true] at h ⊢
    exact fun hc => h (isPlain_of_isWordOrHyphen hc)
  have hnone : propertyName? (c :: r) = none := propertyName?_append hword [] r
  rw [declaredIn?, hword, declaredAt?, hnone, Option.bind_none, ite_self, Option.none_or]

theorem declaredIn?_named (h : ∀ c ∈ run, isWordOrHyphen c = true) : declaredIn? true (run ++ [':']) = none := by
  induction run with
  | nil => rfl
  | cons c run ih =>
    rw [List.forall_mem_cons] at h
    rw [List.cons_append, declaredIn?, if_pos rfl, Option.none_or, h.1, ih h.2]

theorem declaredIn?_blank {r : List Char} {d : List Char × List Char} (hc : isPlain c = true)
    (hd : declaredAt? (c :: r) = some d) (hb : Blanks d.2) :
    declaredIn? (isWordOrHyphen c) (tidied false true r) = none := by
  obtain ⟨gap, hgap, hrun, hname⟩ := declaredAt?_spec hd
  obtain ⟨name, value⟩ := d
  have hfirst : dropBlanks (gap ++ [':'] ++ value) = ':' :: value := by
    rw [List.append_assoc, dropBlanks, List.dropWhile_append_of_pos hgap]
    rfl
  have hbehind : tidied false true (gap ++ [':'] ++ value) = [':'] := by
    have hcolon := after?_colon_tidied (gap ++ [':'] ++ value)
    have hempty := tidied_blanks true hb []
    rw [List.append_nil, tidied_nil] at hempty
    rw [hfirst, after?_single, Option.map_some, hempty] at hcolon
    exact after?_eq_some_iff.1 hcolon
  cases name with
  | nil =>
    -- the name starts here, so neither a blank nor a colon does
    have hhead : c ∈ (gap ++ [':'] ++ value).head? := by
      have hh := congrArg List.head? hrun
      exact hh.symm
    cases gap with
    | nil =>
      cases hhead
      exact absurd hc (by decide)
    | cons x gap =>
      cases hhead
      have hx := not_isBlank_of_isPlain hc
      rw [hgap c (List.mem_cons_self ..)] at hx
      cases hx
  | cons x name =>
    obtain ⟨hx, hrest⟩ : c = x ∧ r = name ++ (gap ++ [':'] ++ value) := List.cons.inj hrun
    rw [List.forall_mem_cons] at hname
    rw [hx, hrest, tidied_word true fun c hc => isPlain_of_isWordOrHyphen (hname.2 c hc), hbehind, hname.1]
    exact declaredIn?_named hname.2

theorem declaredIn?_tidied {glue named named' : Bool} (hr : Unstopped run)
    (hn : named = named' ∨ markup.gives true run = true) (hg : glue = true → named' = false) :
    declaredIn? named' (tidied glue true run) = (declaredIn? named run).bind tidiedDeclaration? := by
  have hfalse {b : Bool} (h : false = true) : b = false := absurd h Bool.false_ne_true
  induction run generalizing glue named named' with
  | nil => rfl
  | cons c r ih =>
    obtain ⟨hc, hrest⟩ := List.forall_mem_cons.1 hr
    cases hb : isBlank c with
    | true =>
      rw [declaredIn?_skip (by simp [isPlain, hb]), tidied_blank hb]
      split
      · rename_i hgone
        rw [Bool.or_eq_true] at hgone
        exact ih hrest (hgone.imp_left fun hglue => (hg hglue).symm) hg
      · rw [declaredIn?_skip (by decide)]
        exact ih hrest (.inl rfl) hfalse
    | false =>
      have hkeep : c = ';' → first? r ≠ some '\x7d' := by
        rintro rfl
        cases hc
      rw [tidied_kept hb hkeep]
      cases hm : isMark c with
      | true =>
        have hplain : isPlain c = false := by simp [isPlain, hm]
        rw [declaredIn?_skip hplain, declaredIn?_skip hplain]
        exact ih hrest (.inl rfl) fun _ => rfl
      | false =>
        have hplain : isPlain c = true := by simp [isPlain, hm, hb]
        obtain rfl : named = named' := hn.resolve_right (by simp [Spacing.gives, hb, hm])
        have hnext := @ih false _ _ hrest (.inl (Eq.refl (isWordOrHyphen c))) hfalse
        have hat := declaredAt?_tidied (c :: r)
        rw [tidied_plain hplain] at hat
        rw [declaredIn?, declaredIn?, hat, hnext]
        cases named with
        | true => rfl
        | false =>
          rw [if_neg Bool.false_ne_true, if_neg Bool.false_ne_true]
          cases hd : declaredAt? (c :: r) with
          | none => rfl
          | some d =>
            rw [Option.bind_some, Option.some_or, Option.bind_some]
            by_cases hblank : d.2.all isBlank = true
            · have hnone := declaredIn?_blank hplain hd (List.all_eq_true.1 hblank)
              rw [hnext] at hnone
              rw [tidiedDeclaration?, if_pos hblank, Option.none_or, hnone]
            · rw [tidiedDeclaration?, if_neg hblank, Option.some_or]

theorem Unstopped.tidied (hr : Unstopped run) (glue : Bool) : Unstopped (tidied glue true run) := by
  intro c hc
  rcases mem_tidied hc with rfl | hc
  · rfl
  · exact hr c hc

theorem declared_run (hr : Unstopped run) (hc : c = ';' ∨ c = '\x7d') (rest : List Char) :
    declared (run ++ c :: rest) = (declaredIn? false run).toList ++ declared rest := by
  have hstop : isStop c = true := by rcases hc with rfl | rfl <;> rfl
  have hopen : c ≠ '\x7b' := by rcases hc with rfl | rfl <;> decide
  rw [declared, collect_run hr hstop, if_neg hopen]
  rfl

theorem declared_open (hr : Unstopped run) (rest : List Char) : declared (run ++ '\x7b' :: rest) = declared rest := by
  rw [declared, collect_run hr (by decide), if_pos rfl]
  rfl

theorem declared_tidied (text : List Char) :
    declared (tidied true true text) = (declared text).filterMap tidiedDeclaration? := by
  induction hn : text.length using Nat.strong_induction_on generalizing text with
  | h n ih =>
    rcases none_or_first isStop text with hnone | ⟨run, c, rest, rfl, hr, hc⟩
    · have hu : Unstopped text := hnone
      rw [declared, declared, collect_unstopped (hu.tidied true), collect_unstopped hu]
      rfl
    · have hu : Unstopped run := hr
      rw [List.length_append, List.length_cons] at hn
      have hrest := ih rest.length (by omega) rest rfl
      have hrun : (declaredIn? false (Stylesheet.tidied true true run)).toList =
          (declaredIn? false run).toList.filterMap tidiedDeclaration? := by
        rw [declaredIn?_tidied hu (.inl rfl) fun _ => rfl]
        cases declaredIn? false run with
        | none => rfl
        | some d =>
          rw [Option.bind_some, Option.toList_some, List.filterMap_cons]
          cases tidiedDeclaration? d <;> rfl
      obtain rfl | rfl | rfl : c = ';' ∨ c = '\x7b' ∨ c = '\x7d' := by simpa [isStop, or_assoc] using hc
      · rw [declared_run hu (.inl rfl), List.filterMap_append, ← hrest, ← hrun, tidied_append (by decide) (by decide),
          show isMark ';' = true by decide]
        by_cases hbrace : first? rest = some '\x7d'
        · -- the brace takes the place of the semicolon
          obtain ⟨r, hr'⟩ := List.head?_eq_some_iff.1 (first_tidied true hbrace)
          have hnext := @declared_run _ [] nofun (.inr rfl) r
          rw [List.nil_append, declaredIn?, Option.toList_none, List.nil_append] at hnext
          rw [tidied_last hbrace, hr', declared_run (hu.tidied true) (.inr rfl), hnext]
        · rw [tidied_kept (by decide) fun _ => hbrace, declared_run (hu.tidied true) (.inl rfl)]
          rfl
      · rw [declared_open hu, ← hrest, tidied_append (by decide) (by decide), tidied_open,
          show isMark '\x7b' = true by decide, declared_open (hu.tidied true)]
      · have hsemicolon : ';' ∉ run := fun hm => absurd (hu _ hm) (by decide)
        rw [declared_run hu (.inr rfl), List.filterMap_append, ← hrest, ← hrun, tidied_append_brace hsemicolon,
          declared_run (hu.tidied true) (.inr rfl)]

end UtilityCss.Stylesheet.Statistics
