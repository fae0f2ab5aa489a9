import Mathlib.Data.List.Basic
import Mathlib.Data.List.TakeWhile
import Mathlib.Tactic.Common
import UtilityCss.Text.Cut

namespace UtilityCss.Text

-- Of all the characters that there are only those of the text are looked at.
instance (priority := high) forallMemDecidable {p : Char → Prop} [DecidablePred p] (text : List Char) :
    Decidable (∀ c ∈ text, p c) :=
  List.decidableBAll p text

instance (priority := high) forallMemSomeDecidable {p : Char → Prop} [DecidablePred p] (found : Option Char) :
    Decidable (∀ c ∈ found, p c) :=
  Option.decidableForallMem found

instance (priority := high) existsMemSomeDecidable {p : Char → Prop} [DecidablePred p] (found : Option Char) :
    Decidable (∃ c ∈ found, p c) :=
  Option.decidableExistsMem found

theorem isBlank_space : isBlank ' ' = true := by
  decide

def Blanks (text : List Char) : Prop :=
  ∀ c ∈ text, isBlank c = true

instance (text : List Char) : Decidable (Blanks text) :=
  inferInstanceAs (Decidable (∀ c ∈ text, isBlank c = true))

structure Solid (text : List Char) : Prop where
  first : ∀ c ∈ text.head?, isBlank c = false
  last : ∀ c ∈ text.getLast?, isBlank c = false

variable {a b text : List Char}

theorem Blanks.append (ha : Blanks a) (hb : Blanks b) : Blanks (a ++ b) :=
  List.forall_mem_append.2 ⟨ha, hb⟩

theorem Blanks.not_mem {c : Char} (h : Blanks a) (hc : isBlank c = false) : c ∉ a := fun hm =>
  Bool.false_ne_true (hc.symm.trans (h c hm))

theorem Blanks.head?_ne {c : Char} (h : Blanks a) (hc : isBlank c = false) : a.head? ≠ some c := fun hs =>
  h.not_mem hc (List.mem_of_head? hs)

theorem Blanks.getLast?_ne {c : Char} (h : Blanks a) (hc : isBlank c = false) : a.getLast? ≠ some c := fun hs =>
  h.not_mem hc (List.mem_of_getLast? hs)

theorem dropWhile_of_first (h : ∀ c ∈ text.head?, isBlank c = false) : text.dropWhile isBlank = text := by
  cases text with
  | nil => rfl
  | cons c r => rw [List.dropWhile_cons_of_neg (by simpa using h c rfl)]

theorem trim_blanks_append (h : Blanks a) (text : List Char) : trim (a ++ text) = trim text := by
  rw [trim, trimBy, List.dropWhile_append_of_pos h, ← trimBy, ← trim]

theorem Blanks.trim_eq_nil (h : Blanks a) : trim a = [] := by
  have ha := trim_blanks_append h []
  rwa [List.append_nil] at ha

theorem trim_append_blanks (text : List Char) (h : Blanks a) : trim (text ++ a) = trim text := by
  have hreverse : ∀ c ∈ a.reverse, isBlank c = true := fun c hc => h c (List.mem_reverse.1 hc)
  rw [trim, trimBy, List.dropWhile_append]
  split
  · rename_i he
    have hd : a.dropWhile isBlank = [] := List.dropWhile_eq_nil_iff.2 h
    rw [trim, trimBy, List.isEmpty_iff.1 he, hd]
  · rw [List.reverse_append, List.dropWhile_append_of_pos hreverse]
    rfl

theorem Solid.trim (h : Solid text) : trim text = text := by
  have hlast : ∀ c ∈ text.reverse.head?, isBlank c = false := by
    rw [List.head?_reverse]
    exact h.last
  rw [Text.trim, trimBy, dropWhile_of_first h.first, dropWhile_of_first hlast, List.reverse_reverse]

theorem solid_append (ha : a ≠ []) (hfirst : ∀ c ∈ a.head?, isBlank c = false) (hb : b ≠ [])
    (hlast : ∀ c ∈ b.getLast?, isBlank c = false) : Solid (a ++ b) := by
  refine ⟨?_, ?_⟩
  · rwa [List.head?_append_of_ne_nil _ ha]
  · rwa [List.getLast?_append_of_ne_nil _ hb]

theorem first_dropWhile (text : List Char) : ∀ c ∈ (text.dropWhile isBlank).head?, isBlank c = false := by
  intro c hc
  have hd := List.head?_dropWhile_not isBlank text
  rw [Option.mem_def.1 hc] at hd
  exact hd

theorem trim_spec (text : List Char) :
    ∃ front back, Blanks front ∧ Blanks back ∧ text = front ++ trim text ++ back ∧ Solid (trim text) := by
  let rest := text.dropWhile isBlank
  have htext : text = text.takeWhile isBlank ++ rest := List.takeWhile_append_dropWhile.symm
  have hrest : rest = trim text ++ (rest.reverse.takeWhile isBlank).reverse := by
    rw [trim, trimBy, ← List.reverse_append, List.takeWhile_append_dropWhile, List.reverse_reverse]
  refine ⟨text.takeWhile isBlank, (rest.reverse.takeWhile isBlank).reverse, ?_, ?_, ?_, ?_, ?_⟩
  · exact fun c hc => List.mem_takeWhile_imp hc
  · exact fun c hc => List.mem_takeWhile_imp (List.mem_reverse.1 hc)
  · rw [List.append_assoc, ← hrest, ← htext]
  · intro c hc
    apply first_dropWhile text c
    change c ∈ rest.head?
    rw [hrest, List.head?_append, Option.mem_def.1 hc]
    rfl
  · intro c hc
    rw [trim, trimBy, List.getLast?_reverse] at hc
    exact first_dropWhile _ c hc

theorem Solid.eq_nil_of_blanks (h : Solid text) (hb : Blanks text) : text = [] := by
  cases text with
  | nil => rfl
  | cons c r =>
    have hc := h.first c rfl
    rw [hb c (List.mem_cons_self ..)] at hc
    cases hc

theorem all_isBlank_trim (text : List Char) : (trim text).all isBlank = text.all isBlank := by
  obtain ⟨front, back, hf, hb, ht, hs⟩ := trim_spec text
  rw [Bool.eq_iff_iff, List.all_eq_true, List.all_eq_true]
  constructor
  · intro h
    rw [ht, hs.eq_nil_of_blanks h, List.append_nil]
    exact hf.append hb
  · intro h
    rw [Blanks.trim_eq_nil h]
    exact nofun

theorem dropFinalNewline_of_not_mem {cs ending : List Char} (h : '\n' ∉ cs) (he : ending ∈ [[], ['\n']]) :
    dropFinalNewline (cs ++ ending) = cs := by
  rw [dropFinalNewline]
  rcases List.mem_cons.1 he with rfl | he
  · rw [List.append_nil, if_neg]
    exact fun hl => h (List.mem_of_getLast? hl)
  · rw [List.mem_singleton.1 he, List.getLast?_concat, if_pos rfl, List.dropLast_concat]

theorem exists_ending (cs : List Char) : ∃ ending ∈ [[], ['\n']], cs = dropFinalNewline cs ++ ending := by
  rw [dropFinalNewline]
  split
  · rename_i hl
    exact ⟨['\n'], by simp, (List.dropLast_append_getLast? _ hl).symm⟩
  · exact ⟨[], by simp, (List.append_nil cs).symm⟩

theorem head?_trim {text : List Char} {c : Char} (hc : text.head? = some c) (hb : isBlank c = false) :
    (trim text).head? = some c := by
  obtain ⟨front, back, hfront, hback, ht, _⟩ := trim_spec text
  have hnot {blanks : List Char} (h : Blanks blanks) : blanks.head? ≠ some c := h.head?_ne hb
  rw [ht, List.append_assoc] at hc
  cases front with
  | cons d front => exact absurd (show (d :: front).head? = some c from hc) (hnot hfront)
  | nil =>
    rw [List.nil_append, List.head?_append] at hc
    cases hs : (trim text).head? with
    | some d =>
      rw [hs] at hc
      exact hc
    | none =>
      rw [hs] at hc
      exact absurd hc (hnot hback)

end UtilityCss.Text
