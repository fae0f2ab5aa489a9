import Mathlib.Data.List.Nodup
import Mathlib.Data.List.Pairwise
import UtilityCss.Proofs.Number.Reading
import UtilityCss.Proofs.Table
import UtilityCss.Stylesheet.Layout

namespace UtilityCss.Stylesheet

open Number Text

def NoDigit (cs : List Char) : Prop :=
  ∀ c ∈ cs.head?, isDecimalDigit c = false

/-- The number that a text starts with, as the nearest double: digits and a fraction behind a point as long as
they go, and zero if there are none. -/
inductive StartsWith : List Char → Binary64 → Prop
  | whole {ds rest : List Char} (hn : ds ≠ []) (hd : ∀ c ∈ ds, isDecimalDigit c = true) (hr : NoDigit rest)
      (hf : ∀ r, rest = '.' :: r → NoDigit r) : StartsWith (ds ++ rest) (.ofDecimal false (ofDecimalDigits ds) 0)
  | fraction {ds es rest : List Char} (hd : ∀ c ∈ ds, isDecimalDigit c = true) (hn : es ≠ [])
      (he : ∀ c ∈ es, isDecimalDigit c = true) (hr : NoDigit rest) :
      StartsWith (ds ++ '.' :: (es ++ rest)) (.ofDecimal false (ofDecimalDigits (ds ++ es)) (-es.length))
  | nothing {cs : List Char} (hd : NoDigit cs) (hf : ∀ r, cs = '.' :: r → NoDigit r) : StartsWith cs (.zero false)

theorem noDigit_iff {cs : List Char} : NoDigit cs ↔ cs.takeWhile isDecimalDigit = [] := by
  cases cs with
  | nil => simp [NoDigit]
  | cons c cs => cases h : isDecimalDigit c <;> simp [NoDigit, h]

theorem noDigit_dropWhile (cs : List Char) : NoDigit (cs.dropWhile isDecimalDigit) := by
  intro c hc
  have hnot := List.head?_dropWhile_not isDecimalDigit cs
  rwa [Option.mem_def.1 hc] at hnot

theorem numeral?_of_no_fraction {cs : List Char}
    (h : ∀ r, cs.dropWhile isDecimalDigit = '.' :: r → NoDigit r) :
    numeral? cs = if cs.takeWhile isDecimalDigit = [] then none
      else some (cs.takeWhile isDecimalDigit, cs.dropWhile isDecimalDigit) := by
  rw [numeral?]
  dsimp only
  split
  · rename_i r hr
    simp [noDigit_iff.1 (h r hr), hr]
  · simp

theorem startsWith_leastWidth (width : String) : StartsWith width.toList (leastWidth width) := by
  rw [leastWidth]
  generalize width.toList = cs
  have hdigits (cs : List Char) : ∀ c ∈ cs.takeWhile isDecimalDigit, isDecimalDigit c = true :=
    fun c hc => List.mem_takeWhile_imp hc
  have hcs : cs.takeWhile isDecimalDigit ++ cs.dropWhile isDecimalDigit = cs := List.takeWhile_append_dropWhile
  have hrest := noDigit_dropWhile cs
  by_cases hf : ∀ r, cs.dropWhile isDecimalDigit = '.' :: r → NoDigit r
  · rw [numeral?_of_no_fraction hf]
    by_cases hn : cs.takeWhile isDecimalDigit = []
    · rw [if_pos hn]
      rw [hn, List.nil_append] at hcs
      rw [hcs] at hrest hf
      exact .nothing hrest hf
    · rw [if_neg hn]
      dsimp only
      rw [ofNumeral_whole hn (hdigits cs)]
      have hstarts := StartsWith.whole hn (hdigits cs) hrest hf
      rwa [hcs] at hstarts
  · push Not at hf
    obtain ⟨r, hr, hn⟩ := hf
    rw [noDigit_iff] at hn
    rw [numeral?, hr]
    simp only [List.isEmpty_iff, hn, if_false]
    rw [ofNumeral_fraction (hdigits cs) hn (hdigits r)]
    have hstarts := StartsWith.fraction (hdigits cs) hn (hdigits r) (noDigit_dropWhile r)
    rwa [List.takeWhile_append_dropWhile, ← hr, hcs] at hstarts

theorem takeWhile_append_noDigit {ds rest : List Char} (hd : ∀ c ∈ ds, isDecimalDigit c = true) (hr : NoDigit rest) :
    (ds ++ rest).takeWhile isDecimalDigit = ds ∧ (ds ++ rest).dropWhile isDecimalDigit = rest := by
  have hdrop : rest.dropWhile isDecimalDigit = rest := by
    cases rest with
    | nil => rfl
    | cons c r => exact List.dropWhile_cons_of_neg (by simpa using hr c rfl)
  rw [List.takeWhile_append_of_pos hd, List.dropWhile_append_of_pos hd, noDigit_iff.1 hr, hdrop, List.append_nil]
  exact ⟨rfl, rfl⟩

theorem startsWith_iff (width : String) (x : Binary64) : StartsWith width.toList x ↔ x = leastWidth width := by
  constructor
  · rw [leastWidth]
    generalize width.toList = cs
    intro h
    cases h with
    | @whole ds rest hn hd hr hf =>
      obtain ⟨htake, hdrop⟩ := takeWhile_append_noDigit hd hr
      rw [numeral?_of_no_fraction (by rwa [hdrop]), htake, if_neg hn]
      exact (ofNumeral_whole hn hd).symm
    | @fraction ds es rest hd hn he hr =>
      have hpoint : NoDigit ('.' :: (es ++ rest)) := by
        rintro c ⟨⟩
        decide
      obtain ⟨htake, hdrop⟩ := takeWhile_append_noDigit hd hpoint
      rw [numeral?, htake, hdrop]
      simp only [(takeWhile_append_noDigit he hr).1, List.isEmpty_iff, hn, if_false]
      exact (ofNumeral_fraction hd hn he).symm
    | nothing hd hf =>
      obtain ⟨htake, hdrop⟩ := takeWhile_append_noDigit (List.forall_mem_nil _) hd
      rw [List.nil_append] at htake hdrop
      rw [numeral?_of_no_fraction (by rwa [hdrop]), htake, if_pos rfl]
  · rintro rfl
    exact startsWith_leastWidth width

theorem leastWidth_ne_nan (width : String) : leastWidth width ≠ .nan := by
  rw [leastWidth]
  split
  · rename_i number rest h
    exact ofNumeral_numeral?_ne_nan h
  · nofun

/-- The breakpoints of a table by the numbers that their widths start with, those of one number in the order
of the table. -/
structure Ascending (breakpoints : Table String String) (names : List String) : Prop where
  perm : names.Perm breakpoints.keys
  order : ∃ width : String → Binary64, (∀ e ∈ breakpoints.entries, StartsWith e.2.toList (width e.1)) ∧
    names.Pairwise fun a b => (width a).value < (width b).value ∨
      (width a).value = (width b).value ∧ [a, b].Sublist breakpoints.keys

variable {α : Type}

theorem pair_sublist_or {xs : List α} {a b : α} (ha : a ∈ xs) (hb : b ∈ xs) (hne : a ≠ b) :
    [a, b].Sublist xs ∨ [b, a].Sublist xs := by
  let either (a b : α) : Prop := [a, b].Sublist xs ∨ [b, a].Sublist xs
  have hsymm : Std.Symm either := ⟨fun _ _ => Or.symm⟩
  have hp : xs.Pairwise either := List.pairwise_iff_forall_sublist.2 Or.inl
  exact hp.forall ha hb hne

theorem not_pair_sublist_swap {xs : List α} (hd : xs.Nodup) {a b : α} (h : [a, b].Sublist xs) :
    ¬ [b, a].Sublist xs := by
  classical
  have hp : xs.Pairwise fun a b => xs.idxOf a < xs.idxOf b := by
    rw [List.pairwise_iff_getElem]
    intro i j hi hj hij
    rwa [hd.idxOf_getElem, hd.idxOf_getElem]
  rw [List.pairwise_iff_forall_sublist] at hp
  intro hs
  have hab := hp h
  have hba := hp hs
  omega

theorem ordered_ascending (breakpoints : Table String String) :
    Ascending breakpoints (ordered breakpoints) := by
  let le (a b : String × String) : Bool := (leastWidth a.2).le (leastWidth b.2)
  let width (name : String) : Binary64 := leastWidth ((breakpoints.get? name).getD "")
  have hle (a b : String × String) : le a b = true ↔ (leastWidth a.2).value ≤ (leastWidth b.2).value :=
    Binary64.le_iff (leastWidth_ne_nan _) (leastWidth_ne_nan _)
  have htrans : ∀ a b c, le a b = true → le b c = true → le a c = true := fun a b c =>
    Binary64.le_of_le_of_le (leastWidth_ne_nan _) (leastWidth_ne_nan _) (leastWidth_ne_nan _)
  have htotal : ∀ a b, (le a b || le b a) = true := fun a b =>
    Binary64.le_or_le (leastWidth_ne_nan _) (leastWidth_ne_nan _)
  have hperm := List.mergeSort_perm breakpoints.entries le
  have hentries : breakpoints.entries.Nodup := List.Nodup.of_map Prod.fst breakpoints.distinct
  have hwidth : ∀ e ∈ breakpoints.entries, width e.1 = leastWidth e.2 := by
    intro e he
    simp only [width, (breakpoints.get?_eq_some_iff e.1 e.2).2 he, Option.getD_some]
  refine ⟨hperm.map Prod.fst, width, fun e he => hwidth e he ▸ startsWith_leastWidth e.2, ?_⟩
  rw [ordered, List.pairwise_map, List.pairwise_iff_forall_sublist]
  intro a b hab
  have ha : a ∈ breakpoints.entries := hperm.mem_iff.1 (hab.subset (List.mem_cons_self ..))
  have hb : b ∈ breakpoints.entries := hperm.mem_iff.1 (hab.subset (by simp))
  have hsorted := List.pairwise_iff_forall_sublist.1 (List.pairwise_mergeSort htrans htotal breakpoints.entries) hab
  rw [hwidth a ha, hwidth b hb]
  rcases ((hle a b).1 hsorted).lt_or_eq with hlt | heq
  · exact .inl hlt
  · right
    refine ⟨heq, ?_⟩
    have hnodup : (breakpoints.entries.mergeSort le).Nodup := hperm.nodup_iff.2 hentries
    have hne : a ≠ b := by simpa using hab.nodup hnodup
    -- Had the table the two the other way round, a stable sort would leave them so.
    rcases pair_sublist_or ha hb hne with hs | hs
    · exact hs.map Prod.fst
    · have hba : le b a = true := (hle b a).2 heq.ge
      exact absurd (List.pair_sublist_mergeSort htrans htotal hba hs) (not_pair_sublist_swap hnodup hab)

theorem Ascending.unique {breakpoints : Table String String} {xs ys : List String} (hx : Ascending breakpoints xs)
    (hy : Ascending breakpoints ys) : xs = ys := by
  obtain ⟨width, hwidth, hxs⟩ := hx.order
  obtain ⟨width', hwidth', hys⟩ := hy.order
  have hsame : ∀ a ∈ breakpoints.keys, width' a = width a := by
    intro a ha
    obtain ⟨e, he, rfl⟩ := List.mem_map.1 ha
    rw [(startsWith_iff _ _).1 (hwidth e he), (startsWith_iff _ _).1 (hwidth' e he)]
  have hys' : ys.Pairwise fun a b => (width a).value < (width b).value ∨
      (width a).value = (width b).value ∧ [a, b].Sublist breakpoints.keys := by
    refine hys.imp_of_mem fun {a b} ha hb hab => ?_
    rwa [hsame a (hy.perm.mem_iff.1 ha), hsame b (hy.perm.mem_iff.1 hb)] at hab
  refine List.Perm.eq_of_pairwise ?_ hxs hys' (hx.perm.trans hy.perm.symm)
  intro a b _ _ hab hba
  rcases hab with hab | ⟨heq, hab⟩ <;> rcases hba with hba | ⟨heq', hba⟩
  · exact absurd (hab.trans hba) (lt_irrefl _)
  · exact absurd hab (heq' ▸ lt_irrefl _)
  · exact absurd hba (heq ▸ lt_irrefl _)
  · exact absurd hba (not_pair_sublist_swap breakpoints.distinct hab)

end UtilityCss.Stylesheet
