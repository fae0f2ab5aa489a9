import Mathlib.Data.List.Infix
import UtilityCss.Proofs.Statistics.Collected

namespace UtilityCss.Stylesheet.Statistics

open Text

variable {α : Type} {m : Char} {r cs width mark : List Char} {read? : List Char → Option (α × List Char)}

def Marks (m : Char) (read? : List Char → Option (α × List Char)) : Prop :=
  ∀ cs p, read? cs = some p → ∃ span, cs = m :: (span ++ p.2) ∧ m ∉ span

theorem Marks.starts (h : Marks m read?) (hm : isPlain m = true) : Starts read? := by
  intro cs p hp
  obtain ⟨span, hs, _⟩ := h cs p hp
  exact ⟨m, span, hm, hs⟩

theorem Marks.missed (h : Marks m read?) (hs : m ∉ cs) (hne : cs ≠ []) (rest : List Char) :
    read? (cs ++ rest) = none := by
  obtain ⟨c, cs, rfl⟩ := List.exists_cons_of_ne_nil hne
  rw [Option.eq_none_iff_forall_ne_some]
  intro p hp
  obtain ⟨span, he, _⟩ := h _ p hp
  exact hs (by rw [(List.cons.inj he).1]; exact List.mem_cons_self ..)

theorem Marks.length_finds (h : Marks m read?) (hm : isPlain m = true) (cs : List Char) :
    (finds read? cs).length = cs.tails.countP fun t => (read? t).isSome := by
  have hskip {span : List Char} (hs : m ∉ span) (rest : List Char) :
      (span ++ rest).tails.countP (fun t => (read? t).isSome) = rest.tails.countP fun t => (read? t).isSome := by
    induction span with
    | nil => rfl
    | cons c span ih =>
      have hnone := h.missed hs (List.cons_ne_nil c span) rest
      rw [List.cons_append] at hnone
      rw [List.cons_append, List.tails, List.countP_cons_of_neg (by simp [hnone]),
        ih fun hc => hs (List.mem_cons_of_mem c hc)]
  induction hn : cs.length using Nat.strong_induction_on generalizing cs with
  | h n ih =>
    cases cs with
    | nil =>
      have hnone : read? [] = none := by
        rw [Option.eq_none_iff_forall_ne_some]
        intro p hp
        obtain ⟨_, he, _⟩ := h [] p hp
        cases he
      rw [finds, collect, List.tails, List.countP_singleton, hnone]
      rfl
    | cons c r =>
      rw [List.length_cons] at hn
      rw [List.tails, List.countP_cons]
      cases hp : read? (c :: r) with
      | none =>
        rw [finds_missed hp, ih r.length (by omega) r rfl]
        rfl
      | some p =>
        obtain ⟨x, rest⟩ := p
        have hl := (h.starts hm).shorter hp
        obtain ⟨span, he, hs⟩ := h _ _ hp
        rw [finds_found hp hl, List.length_cons, ih rest.length (by omega) rest rfl, (List.cons.inj he).2, hskip hs]
        rfl

theorem mediaOpening?_eq (cs : List Char) :
    mediaOpening? cs = (after? "@media".toList cs).bind fun r => after? ['('] (dropBlanks r) := by
  rw [mediaOpening?]
  congr 1
  funext r
  split
  · rename_i hr
    rw [hr, after?_single]
  · rename_i hr
    rw [after?_eq_none hr]

theorem mediaOpening?_tidied (text : List Char) :
    mediaOpening? (tidied false true text) = (mediaOpening? text).map (tidied false true) := by
  rw [mediaOpening?_eq, mediaOpening?_eq, after?_tidied (by decide)]
  cases after? "@media".toList text with
  | none => rfl
  | some r =>
    rw [Option.map_some, Option.bind_some, Option.bind_some, dropBlanks_tidied, after?_tidied (by decide)]

theorem mediaOpening?_spec (h : mediaOpening? cs = some r) : ∃ span, cs = '@' :: (span ++ r) ∧ '@' ∉ span := by
  rw [mediaOpening?_eq, Option.bind_eq_some_iff] at h
  obtain ⟨r', hr', h⟩ := h
  refine ⟨"media".toList ++ r'.takeWhile isBlank ++ ['('], ?_, ?_⟩
  · have hblanks := List.takeWhile_append_dropWhile (p := isBlank) (l := r')
    rw [← dropBlanks, after?_eq_some_iff.1 h] at hblanks
    rw [after?_eq_some_iff.1 hr']
    conv_lhs => rw [← hblanks]
    simp
  · have hat : '@' ∉ r'.takeWhile isBlank := fun hm => absurd (List.mem_takeWhile_imp hm) (by decide)
    simp [hat]

theorem alike_schemeMedia? : Alike schemeMedia? schemeMedia? id := by
  intro text
  rw [schemeMedia?, schemeMedia?, mediaOpening?_tidied]
  cases mediaOpening? text with
  | none => rfl
  | some r =>
    rw [Option.map_some, Option.bind_some, Option.bind_some, after?_tidied (by decide), Option.map_map, Option.map_map]
    rfl

theorem marks_schemeMedia? : Marks '@' schemeMedia? := by
  intro cs p hp
  simp only [schemeMedia?, Option.map_eq_some_iff, Option.bind_eq_some_iff] at hp
  obtain ⟨rest, ⟨r, hr, hrest⟩, rfl⟩ := hp
  obtain ⟨span, rfl, hs⟩ := mediaOpening?_spec hr
  refine ⟨span ++ "prefers-color-scheme".toList, ?_, ?_⟩
  · rw [after?_eq_some_iff.1 hrest, List.append_assoc]
  · rw [List.mem_append, not_or]
    exact ⟨hs, by decide⟩

theorem countSchemes_tidied (glue : Bool) (text : List Char) :
    finds schemeMedia? (tidied glue true text) = finds schemeMedia? text := by
  have hstarts := marks_schemeMedia?.starts (by decide)
  rw [finds_tidied hstarts hstarts alike_schemeMedia?, List.map_id]

def widthQuery? (width : List Char) (cs : List Char) : Option (Unit × List Char) :=
  ((mediaOpening? cs).bind (after? "min-width".toList)).bind fun r =>
    ((after? [':'] (dropBlanks r)).bind fun r => after? (width ++ [')']) (dropBlanks r)).map ((), ·)

theorem afterBlanks?_eq (hm : ∀ c ∈ mark.head?, isBlank c = false) (hne : mark ≠ []) (cs : List Char) :
    afterBlanks? mark cs = after? mark (dropBlanks cs) := by
  obtain ⟨d, mark, rfl⟩ := List.exists_cons_of_ne_nil hne
  have hd := hm d rfl
  induction cs with
  | nil => rfl
  | cons c r ih =>
    rw [afterBlanks?]
    split
    · rename_i hc
      have hnone : after? (d :: mark) (c :: r) = none := by
        rw [after?, if_neg]
        rintro rfl
        rw [hc] at hd
        cases hd
      rw [ih, hnone, Option.or_none, dropBlanks, dropBlanks, List.dropWhile_cons_of_pos hc]
    · rename_i hc
      rw [dropBlanks, List.dropWhile_cons_of_neg hc]

def IsWidth (width : List Char) : Prop :=
  ∀ c ∈ width, isPlain c = true ∧ c ≠ '@'

instance (width : List Char) : Decidable (IsWidth width) :=
  inferInstanceAs (Decidable (∀ c ∈ width, _))

theorem IsWidth.plain (h : IsWidth width) : ∀ c ∈ width ++ [')'], isPlain c = true :=
  List.forall_mem_append.2 ⟨fun c hc => (h c hc).1, by decide⟩

theorem widthMedia?_eq (h : IsWidth width) (cs : List Char) : widthMedia? width cs =
    ((mediaOpening? cs).bind (after? "min-width".toList)).bind fun r =>
      ((after? [':'] r).bind fun r => after? (width ++ [')']) (dropBlanks r)).map ((), ·) := by
  have hfirst : ∀ c ∈ (width ++ [')']).head?, isBlank c = false := fun c hc =>
    not_isBlank_of_isPlain (h.plain c (List.mem_of_head? hc))
  have hword : "min-width:".toList = "min-width".toList ++ [':'] := by decide
  rw [widthMedia?, hword]
  cases mediaOpening? cs with
  | none => rfl
  | some r =>
    rw [Option.bind_some, Option.bind_some, after?_append]
    cases after? "min-width".toList r with
    | none => rfl
    | some r =>
      rw [Option.bind_some, Option.bind_some]
      cases after? [':'] r with
      | none => rfl
      | some r => rw [Option.bind_some, Option.bind_some, afterBlanks?_eq hfirst (by simp)]

theorem alike_widthMedia? (h : IsWidth width) : Alike (widthQuery? width) (widthMedia? width) id := by
  intro text
  rw [widthMedia?_eq h, widthQuery?, mediaOpening?_tidied]
  cases mediaOpening? text with
  | none => rfl
  | some r =>
    rw [Option.map_some, Option.bind_some, Option.bind_some, after?_tidied (by decide)]
    cases after? "min-width".toList r with
    | none => rfl
    | some r =>
      rw [Option.map_some, Option.bind_some, Option.bind_some, after?_colon_tidied]
      cases after? [':'] (dropBlanks r) with
      | none => rfl
      | some r =>
        rw [Option.map_some, Option.bind_some, Option.bind_some, dropBlanks_tidied, after?_tidied h.plain,
          Option.map_map, Option.map_map]
        rfl

theorem marks_widthQuery? (h : IsWidth width) : Marks '@' (widthQuery? width) := by
  have hblanks {gap : List Char} (hg : Blanks gap) : '@' ∉ gap := hg.not_mem (by decide)
  intro cs p hp
  simp only [widthQuery?, Option.map_eq_some_iff, Option.bind_eq_some_iff] at hp
  obtain ⟨r, ⟨r', hr', hr⟩, rest, ⟨r'', hcolon, hrest⟩, rfl⟩ := hp
  obtain ⟨span, rfl, hs⟩ := mediaOpening?_spec hr'
  obtain ⟨gap, hgap, rfl⟩ := exists_blanks hcolon
  obtain ⟨gap', hgap', rfl⟩ := exists_blanks hrest
  refine ⟨span ++ "min-width".toList ++ gap ++ [':'] ++ gap' ++ (width ++ [')']), ?_, ?_⟩
  · rw [after?_eq_some_iff.1 hr]
    simp
  · have hwidth : '@' ∉ width := fun hm => (h _ hm).2 rfl
    simp [hs, hblanks hgap, hblanks hgap', hwidth]

theorem widthQuery?_of_widthMedia? (h : IsWidth width) {p : Unit × List Char} (hp : widthMedia? width cs = some p) :
    widthQuery? width cs = some p := by
  simp only [widthMedia?_eq h, Option.map_eq_some_iff, Option.bind_eq_some_iff] at hp
  obtain ⟨r, hr, rest, ⟨r', hcolon, hrest⟩, rfl⟩ := hp
  have hblanks : dropBlanks r = r := by
    rw [after?_eq_some_iff.1 hcolon]
    exact List.dropWhile_cons_of_neg (by decide)
  rw [widthQuery?, Option.bind_eq_some_iff.2 hr, Option.bind_some, hblanks, hcolon, Option.bind_some, hrest,
    Option.map_some]

theorem countP_eq_countP_iff {γ : Type} {p q : γ → Bool} {xs : List γ} (h : ∀ x ∈ xs, q x = true → p x = true) :
    xs.countP p = xs.countP q ↔ ∀ x ∈ xs, p x = true → q x = true := by
  constructor
  · intro heq
    induction xs with
    | nil => exact nofun
    | cons x xs ih =>
      rw [List.forall_mem_cons] at h ⊢
      have hle := List.countP_mono_left h.2
      rw [List.countP_cons, List.countP_cons] at heq
      by_cases hq : q x = true
      · rw [if_pos hq, if_pos (h.1 hq)] at heq
        exact ⟨fun _ => hq, ih h.2 (by omega)⟩
      · rw [if_neg hq] at heq
        by_cases hp : p x = true
        · rw [if_pos hp] at heq
          omega
        · rw [if_neg hp] at heq
          exact ⟨fun hp' => absurd hp' hp, ih h.2 heq⟩
  · exact fun hpq => List.countP_congr fun x hx => ⟨hpq x hx, h x hx⟩

theorem countWidth_tidied_eq_iff {width : String} (h : IsWidth width.toList) (glue : Bool) (text : List Char) :
    countWidth width (tidied glue true text) = countWidth width text ↔
      ∀ t, t <:+ text → (widthQuery? width.toList t).isSome = true → (widthMedia? width.toList t).isSome = true := by
  have hquery := marks_widthQuery? h
  have hmedia : Marks '@' (widthMedia? width.toList) := fun cs p hp => hquery cs p (widthQuery?_of_widthMedia? h hp)
  have hat : isPlain '@' = true := by decide
  have htidy := finds_tidied (hquery.starts hat) (hmedia.starts hat) (alike_widthMedia? h) glue text
  have hsame : ∀ t ∈ text.tails,
      (widthMedia? width.toList t).isSome = true → (widthQuery? width.toList t).isSome = true := by
    intro t _ ht
    obtain ⟨p, hp⟩ := Option.isSome_iff_exists.1 ht
    rw [widthQuery?_of_widthMedia? h hp]
    rfl
  rw [countWidth, countWidth, ← finds, ← finds, htidy, List.length_map, hquery.length_finds hat,
    hmedia.length_finds hat, countP_eq_countP_iff hsame]
  simp only [List.mem_tails]

end UtilityCss.Stylesheet.Statistics
