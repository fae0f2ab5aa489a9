import UtilityCss.Proofs.Stylesheet.Tidied
import UtilityCss.Proofs.Text.Ascii
import UtilityCss.Proofs.Text.Pieces
import UtilityCss.Proofs.Text.Search
import UtilityCss.Stylesheet.Statistics

namespace UtilityCss.Stylesheet.Statistics

open Text

variable {α β : Type} {c : Char} {r cs rest word : List Char} {x : α}
  {read? : List Char → Option (α × List Char)} {tidyRead? : List Char → Option (β × List Char)}

def finds (read? : List Char → Option (α × List Char)) (cs : List Char) : List α :=
  collect (fun _ => read?) none cs

theorem finds_eq (read? : List Char → Option (α × List Char)) (before : Option Char) (cs : List Char) :
    collect (fun _ => read?) before cs = finds read? cs := by
  rw [finds]
  cases cs with
  | nil => rw [collect, collect]
  | cons c r => rw [collect, collect]

theorem finds_missed (h : read? (c :: r) = none) : finds read? (c :: r) = finds read? r := by
  rw [finds, collect, h]
  exact finds_eq read? _ r

theorem finds_found (h : read? (c :: r) = some (x, rest)) (hl : rest.length ≤ r.length) :
    finds read? (c :: r) = x :: finds read? rest := by
  rw [finds, collect, h]
  dsimp only
  rw [dif_pos hl, finds_eq]

def Starts (read? : List Char → Option (α × List Char)) : Prop :=
  ∀ cs p, read? cs = some p → ∃ c span, isPlain c = true ∧ cs = c :: (span ++ p.2)

def Alike (read? : List Char → Option (α × List Char)) (tidyRead? : List Char → Option (β × List Char))
    (f : α → β) : Prop :=
  ∀ text, tidyRead? (tidied false true text) = (read? text).map (Prod.map f (tidied false true))

theorem Starts.shorter (h : Starts read?) (hr : read? (c :: r) = some (x, rest)) : rest.length ≤ r.length := by
  obtain ⟨_, span, _, hs⟩ := h _ _ hr
  rw [(List.cons.inj hs).2, List.length_append]
  exact Nat.le_add_left ..

theorem Starts.missed (h : Starts read?) (hc : isPlain c = false) (r : List Char) : read? (c :: r) = none := by
  rw [Option.eq_none_iff_forall_ne_some]
  intro p hp
  obtain ⟨_, _, hplain, hs⟩ := h _ p hp
  rw [(List.cons.inj hs).1, hplain] at hc
  cases hc

theorem finds_tidied {f : α → β} (h : Starts read?) (h' : Starts tidyRead?) (ha : Alike read? tidyRead? f)
    (glue : Bool) (text : List Char) :
    finds tidyRead? (tidied glue true text) = (finds read? text).map f := by
  induction hn : text.length using Nat.strong_induction_on generalizing glue text with
  | h n ih =>
    cases text with
    | nil =>
      rw [tidied_nil, finds, collect, finds, collect]
      rfl
    | cons c r =>
      rw [List.length_cons] at hn
      have hr (glue : Bool) : finds tidyRead? (tidied glue true r) = (finds read? r).map f :=
        ih r.length (by omega) glue r rfl
      cases hp : isPlain c with
      | true =>
        have hread := ha (c :: r)
        rw [tidied_plain hp] at hread
        rw [tidied_plain hp]
        cases hfound : read? (c :: r) with
        | none =>
          rw [hfound] at hread
          rw [finds_missed hread, finds_missed hfound, hr]
        | some p =>
          obtain ⟨x, rest⟩ := p
          have hl : rest.length ≤ r.length := h.shorter hfound
          rw [hfound] at hread
          rw [finds_found hread (h'.shorter hread), finds_found hfound hl, List.map_cons,
            ih rest.length (by omega) false rest rfl]
      | false =>
        rw [finds_missed (h.missed hp r)]
        cases hb : isBlank c with
        | true =>
          rw [tidied_blank hb]
          split
          · exact hr glue
          · rw [finds_missed (h'.missed (by decide) _), hr]
        | false =>
          by_cases hdrop : c = ';' ∧ first? r = some '\x7d'
          · obtain ⟨rfl, hbrace⟩ := hdrop
            rw [tidied_last hbrace, hr]
          · rw [tidied_kept hb fun hc hbrace => hdrop ⟨hc, hbrace⟩, finds_missed (h'.missed hp _), hr]

theorem finds_behind (h : Starts read?) (a b : List Char) : ∃ t, finds read? t <:+ finds read? (a ++ b) ∧
    (t = b ∨ t <:+ b ∧ ∃ a' x, read? (a' ++ b) = some (x, t)) := by
  induction hn : a.length using Nat.strong_induction_on generalizing a with
  | h n ih =>
    cases a with
    | nil => exact ⟨b, List.suffix_refl _, .inl rfl⟩
    | cons c a =>
      rw [List.length_cons] at hn
      rw [List.cons_append]
      cases hread : read? (c :: (a ++ b)) with
      | none =>
        rw [finds_missed hread]
        exact ih a.length (by omega) a rfl
      | some p =>
        obtain ⟨x, rest⟩ := p
        rw [finds_found hread (h.shorter hread)]
        obtain ⟨_, span, _, hs⟩ := h _ _ hread
        rcases List.append_eq_append_iff.1 (List.cons.inj hs).2 with ⟨into, _, hb⟩ | ⟨a', ha, hrest⟩
        · exact ⟨rest, List.suffix_cons .., .inr ⟨⟨into, hb.symm⟩, c :: a, x, hread⟩⟩
        · obtain ⟨t, ht, hcases⟩ := ih a'.length (by simp only [ha, List.length_append] at hn; omega) a' rfl
          obtain rfl : rest = a' ++ b := hrest
          exact ⟨t, ht.trans (List.suffix_cons ..), hcases⟩

theorem apart_ranges : ∀ r ∈ blankRanges, ∀ s ∈ wordRanges, r.2 < s.1 ∨ s.2 < r.1 := by
  decide +kernel

theorem isPlain_of_isWordOrHyphen {c : Char} (h : isWordOrHyphen c = true) : isPlain c = true := by
  have hascii : ∀ n : Fin 128, isWordOrHyphen (Char.ofNat n) = true → isPlain (Char.ofNat n) = true := by decide +kernel
  by_cases hc : c.toNat < 128
  · exact ascii_induction (P := fun c => isWordOrHyphen c = true → isPlain c = true) hascii hc h
  · have hrange : inRanges wordRanges c = true := by
      have hne : (c == '-') = false := by
        rw [beq_eq_false_iff_ne]
        rintro rfl
        exact hc (by decide)
      rwa [isWordOrHyphen, hne, Bool.or_false, isWordChar, if_neg hc] at h
    have hmark : isMark c = false := by
      have hmarks : ∀ d ∈ ['\x7b', '\x7d', ':', ';', ','], d.toNat < 128 := by decide
      rw [← Bool.not_eq_true]
      intro hm
      refine hc (hmarks c ?_)
      simpa [isMark, or_assoc] using hm
    have hblank : isBlank c = false := by
      obtain ⟨s, hs, hword⟩ := List.any_eq_true.1 hrange
      rw [← Bool.not_eq_true]
      intro hb
      obtain ⟨r, hr, hb⟩ := List.any_eq_true.1 hb
      have := apart_ranges r hr s hs
      simp only [Bool.and_eq_true, decide_eq_true_eq] at hb hword
      omega
    simp [isPlain, hmark, hblank]

theorem isPlain_of_isHexDigit {c : Char} (h : isHexDigit c = true) : isPlain c = true := by
  have hall : ∀ n : Fin 128, isHexDigit (Char.ofNat n) = true → isPlain (Char.ofNat n) = true := by decide +kernel
  exact ascii_induction (P := fun c => isHexDigit c = true → isPlain c = true) hall (toNat_lt_of_isHexDigit h) h

theorem isPlain_of_isWordChar {c : Char} (h : isWordChar c = true) : isPlain c = true :=
  isPlain_of_isWordOrHyphen (by rw [isWordOrHyphen, h, Bool.true_or])

section Colors

theorem hashColor?_eq (cs : List Char) : hashColor? cs = (after? ['#'] cs).bind fun r =>
    if 3 ≤ (r.takeWhile isHexDigit).length && (r.takeWhile isHexDigit).length ≤ 8 &&
        !((r.dropWhile isHexDigit).head?.any isWordChar) then
      some ('#' :: r.takeWhile isHexDigit, r.dropWhile isHexDigit)
    else none := by
  rw [hashColor?.eq_def]
  split
  · rw [after?_single, Option.bind_some]
  · rename_i hne
    rw [after?_eq_none hne, Option.bind_none]

theorem colorFunction?_eq (name cs : List Char) : colorFunction? name cs = (after? name cs).bind fun r =>
    let alpha := (r.takeWhile (· == 'a')).take 1
    (after? ['('] (r.drop alpha.length)).bind fun r' => (cut? ')' r').bind fun p =>
      if p.1.isEmpty then none else some (name ++ alpha ++ '(' :: p.1 ++ [')'], p.2) := by
  rw [colorFunction?]
  congr 1
  funext r
  dsimp only
  split
  · rename_i hr
    rw [hr, after?_single, Option.bind_some]
    split <;> rename_i hcut <;> rw [hcut] <;> rfl
  · rename_i hr
    rw [after?_eq_none hr, Option.bind_none]

theorem cut?_tidied (glue : Bool) (text : List Char) : cut? ')' (tidied glue true text) =
    (cut? ')' text).map fun p => (tidied glue false p.1, tidied false true p.2) := by
  have hnot {follow : Bool} {a : List Char} (ha : ')' ∉ a) : ')' ∉ tidied glue follow a := fun hm =>
    (mem_tidied hm).elim (by decide) ha
  cases hcut : cut? ')' text with
  | some p =>
    obtain ⟨a, b⟩ := p
    rw [cut?_eq_some hcut, tidied_append (by decide) (by decide), tidied_plain (by decide)]
    exact cut?_append (hnot (not_mem_of_cut? hcut)) _
  | none => exact cut?_eq_none (hnot (not_mem_of_cut?_eq_none hcut))

theorem starts_hashColor? : Starts hashColor? := by
  intro cs p hp
  rw [hashColor?_eq, Option.bind_eq_some_iff] at hp
  obtain ⟨r, hr, hp⟩ := hp
  split at hp
  · cases hp
    refine ⟨'#', r.takeWhile isHexDigit, by decide, ?_⟩
    rw [after?_eq_some_iff.1 hr, List.takeWhile_append_dropWhile]
    rfl
  · cases hp

theorem colorFunction?_spec {name : List Char} {p : List Char × List Char} (h : colorFunction? name cs = some p) :
    ∃ alpha args, cs = name ++ alpha ++ ['('] ++ (args ++ [')']) ++ p.2 ∧ (∀ c ∈ alpha, c = 'a') ∧ ')' ∉ args := by
  simp only [colorFunction?_eq, Option.bind_eq_some_iff] at h
  obtain ⟨r, hr, r', hr', ⟨args, rest⟩, hcut, h⟩ := h
  have hprefix : (r.takeWhile (· == 'a')).take 1 <+: r := (List.take_prefix ..).trans (List.takeWhile_prefix _)
  have hdrop := List.prefix_iff_eq_append.1 hprefix
  rw [after?_eq_some_iff.1 hr', cut?_eq_some hcut] at hdrop
  split at h
  · cases h
  · cases h
    refine ⟨(r.takeWhile (· == 'a')).take 1, args, ?_, fun c hc => ?_, not_mem_of_cut? hcut⟩
    · rw [after?_eq_some_iff.1 hr]
      conv_lhs => rw [← hdrop]
      simp
    · exact beq_iff_eq.1 (List.mem_takeWhile_imp (p := (· == 'a')) (List.mem_of_mem_take hc))

theorem starts_colorFunction? (hc : isPlain c = true) (name : List Char) : Starts (colorFunction? (c :: name)) := by
  intro cs p hp
  obtain ⟨alpha, args, hs, _⟩ := colorFunction?_spec hp
  refine ⟨c, name ++ alpha ++ ['('] ++ (args ++ [')']), hc, ?_⟩
  rw [hs]
  simp

theorem starts_color? : Starts color? := by
  intro cs p hp
  rw [color?, Option.or_eq_some_iff, Option.or_eq_some_iff] at hp
  rcases hp with hp | ⟨_, hp | ⟨_, hp⟩⟩
  · exact starts_hashColor? cs p hp
  · exact starts_colorFunction? (by decide) _ cs p hp
  · exact starts_colorFunction? (by decide) _ cs p hp

theorem color?_spec {p : List Char × List Char} (h : color? cs = some p) :
    ∃ head args, cs = head ++ args ++ p.2 ∧ '.' ∉ head ∧
      (args = [] ∨ ∃ args', args = args' ++ [')'] ∧ ')' ∉ args') := by
  have hcall {name : List Char} (hn : '.' ∉ name) (hp : colorFunction? name cs = some p) : ∃ head args,
      cs = head ++ args ++ p.2 ∧ '.' ∉ head ∧ (args = [] ∨ ∃ args', args = args' ++ [')'] ∧ ')' ∉ args') := by
    obtain ⟨alpha, args, hs, halpha, hargs⟩ := colorFunction?_spec hp
    have hdot : '.' ∉ alpha := fun hm => absurd (halpha _ hm) (by decide)
    exact ⟨_, _, hs, by simp [hn, hdot], .inr ⟨args, rfl, hargs⟩⟩
  rw [color?, Option.or_eq_some_iff, Option.or_eq_some_iff] at h
  rcases h with h | ⟨_, h | ⟨_, h⟩⟩
  · rw [hashColor?_eq, Option.bind_eq_some_iff] at h
    obtain ⟨r, hr, h⟩ := h
    split at h
    · cases h
      have hdot : '.' ∉ r.takeWhile isHexDigit := fun hm => absurd (List.mem_takeWhile_imp hm) (by decide)
      refine ⟨'#' :: r.takeWhile isHexDigit, [], ?_, by simp [hdot], .inl rfl⟩
      rw [after?_eq_some_iff.1 hr, List.append_nil, List.cons_append]
      exact congrArg _ List.takeWhile_append_dropWhile.symm
    · cases h
  · exact hcall (by decide) h
  · exact hcall (by decide) h

theorem colors_behind (a b : List Char) : ∃ t, colors t <:+ colors (a ++ '.' :: b) ∧
    (t = '.' :: b ∨ ∃ args, cut? ')' ('.' :: b) = some (args, t)) := by
  obtain ⟨t, ht, hbehind | ⟨⟨into, hinto⟩, a', x, hread⟩⟩ := finds_behind starts_color? a ('.' :: b)
  · exact ⟨t, ht, .inl hbehind⟩
  · refine ⟨t, ht, ?_⟩
    obtain ⟨head, args, hs, hhead, hargs⟩ := color?_spec hread
    have hspan : a' ++ into = head ++ args := by
      rw [← hinto, ← List.append_assoc] at hs
      exact List.append_cancel_right hs
    cases into with
    | nil => exact .inl hinto
    | cons d into =>
      obtain rfl : d = '.' := (List.cons.inj hinto).1
      obtain ⟨front, rfl⟩ : ∃ front, args = front ++ '.' :: into := by
        rcases List.append_eq_append_iff.1 hspan with ⟨back, rfl, hback⟩ | ⟨front, _, hfront⟩
        · cases back with
          | nil => exact ⟨[], hback.symm⟩
          | cons e back =>
            rw [← (List.cons.inj hback).1] at hhead
            simp at hhead
        · exact ⟨front, hfront⟩
      obtain ⟨args, hargs, hclose⟩ := hargs.resolve_left (by simp)
      rcases List.append_eq_append_iff.1 hargs with ⟨into', rfl, hinto'⟩ | ⟨_, _, hnone⟩
      · refine .inr ⟨into', ?_⟩
        rw [← hinto, hinto', List.append_assoc]
        exact cut?_append (fun hm => hclose (List.mem_append_right _ hm)) t
      · simp [List.singleton_eq_append_iff] at hnone

theorem alike_hashColor? : Alike hashColor? hashColor? (tidied true true) := by
  intro text
  have hhex := takeWhile_tidied true fun c => isPlain_of_isHexDigit (c := c)
  have hword := any_head_tidied true fun c => isPlain_of_isWordChar (c := c)
  rw [hashColor?_eq, hashColor?_eq, after?_tidied (by decide)]
  cases after? ['#'] text with
  | none => rfl
  | some r =>
    have hdigits : ∀ c ∈ '#' :: r.takeWhile isHexDigit, isPlain c = true :=
      List.forall_mem_cons.2 ⟨by decide, fun c hc => isPlain_of_isHexDigit (List.mem_takeWhile_imp hc)⟩
    have htidy := tidied_of_plain hdigits true true
    rw [Option.map_some, Option.bind_some, Option.bind_some, (hhex r).1, (hhex r).2, hword]
    split
    · rw [Option.map_some, Prod.map, htidy]
    · rfl

theorem tidied_call (hw : ∀ c ∈ word, isPlain c = true) (args : List Char) :
    tidied true true (word ++ '(' :: args ++ [')']) = word ++ '(' :: tidied false false args ++ [')'] := by
  have hopen : ∀ c ∈ word ++ ['('], isPlain c = true :=
    List.forall_mem_append.2 ⟨hw, by decide⟩
  have hfirst : ∀ c ∈ (word ++ ['('] ++ (args ++ [')'])).head?, isBlank c = false := by
    intro c hc
    rw [List.head?_append_of_ne_nil _ (by simp)] at hc
    exact not_isBlank_of_isPlain (hopen c (List.mem_of_head? hc))
  have hcall (a : List Char) : word ++ '(' :: a ++ [')'] = word ++ ['('] ++ (a ++ [')']) := by simp
  rw [hcall, hcall, tidied_glue hfirst true false, tidied_word true hopen, tidied_append (by decide) (by decide),
    tidied_plain (by decide), tidied_nil]
  rfl

theorem alike_colorFunction? {name : List Char} (hn : ∀ c ∈ name, isPlain c = true) :
    Alike (colorFunction? name) (colorFunction? name) (tidied true true) := by
  intro text
  rw [colorFunction?_eq, colorFunction?_eq, after?_tidied hn]
  cases after? name text with
  | none => rfl
  | some r =>
    have ha : ∀ c, (c == 'a') = true → isPlain c = true := by
      intro c hc
      rw [beq_iff_eq.1 hc]
      decide
    rw [Option.map_some, Option.bind_some, Option.bind_some, (takeWhile_tidied true ha r).1]
    dsimp only
    generalize halpha : (r.takeWhile (· == 'a')).take 1 = alpha
    have hplain : ∀ c ∈ alpha, isPlain c = true := by
      intro c hc
      rw [← halpha] at hc
      exact ha c (List.mem_takeWhile_imp (p := (· == 'a')) (List.mem_of_mem_take hc))
    obtain ⟨rest, rfl⟩ : alpha <+: r := by
      rw [← halpha]
      exact (List.take_prefix ..).trans (List.takeWhile_prefix _)
    rw [tidied_word true hplain, List.drop_left, List.drop_left, after?_tidied (by decide)]
    cases after? ['('] rest with
    | none => rfl
    | some r =>
      rw [Option.map_some, Option.bind_some, Option.bind_some, cut?_tidied]
      cases cut? ')' r with
      | none => rfl
      | some p =>
        obtain ⟨args, rest⟩ := p
        rw [Option.map_some, Option.bind_some, Option.bind_some]
        cases args with
        | nil => rfl
        | cons d args =>
          have hne : (tidied false false (d :: args)).isEmpty = false :=
            List.isEmpty_eq_false_iff.2 (tidied_ne_nil (List.cons_ne_nil d args))
          have hcall := tidied_call (List.forall_mem_append.2 ⟨hn, hplain⟩) (d :: args)
          rw [hne, if_neg Bool.false_ne_true, List.isEmpty_cons, if_neg Bool.false_ne_true, Option.map_some, Prod.map,
            hcall]

theorem alike_color? : Alike color? color? (tidied true true) := by
  intro text
  rw [color?, color?, alike_hashColor?, alike_colorFunction? (by decide), alike_colorFunction? (by decide),
    Option.map_or, Option.map_or]

theorem colors_tidied (glue : Bool) (text : List Char) :
    colors (tidied glue true text) = (colors text).map (tidied true true) :=
  finds_tidied starts_color? starts_color? alike_color? glue text

end Colors

end UtilityCss.Stylesheet.Statistics
