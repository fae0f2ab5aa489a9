import Mathlib.Data.List.Infix
import Mathlib.Tactic.Common
import UtilityCss.Proofs.Text.Pieces
import UtilityCss.Proofs.Text.Trim

/-!
References to custom properties, as in `var(--gap, 4px)`, and what a text stands for when each of them is
replaced by the value of its property. A property without a value gives way to the fallback, and a text
with a reference that has neither stands for nothing.
-/

namespace UtilityCss.Cascade

open Text

abbrev Style := String → Option String

def closing? (depth : Nat) : List Char → Option (List Char × List Char)
  | [] => none
  | c :: r =>
    if c = ')' ∧ depth = 0 then some ([], r)
    else
      let depth := if c = ')' then depth - 1 else if c = '(' then depth + 1 else depth
      (closing? depth r).map fun p => (c :: p.1, p.2)

def reference? : List Char → Option (List Char × List Char)
  | v :: a :: r :: p :: rest =>
    if v ∈ ['v', 'V'] ∧ a ∈ ['a', 'A'] ∧ r ∈ ['r', 'R'] ∧ p = '(' then closing? 0 rest else none
  | _ => none

def isNamePart (c : Char) : Bool :=
  c.isAlphanum || "-_#@\\".toList.contains c || 0x80 ≤ c.toNat

def nameIn (inner : List Char) : String :=
  String.ofList (trim (inner.takeWhile (· ≠ ',')))

def fallbackIn? (inner : List Char) : Option (List Char) :=
  (cut? ',' inner).map fun p => trim p.2

def Style.custom? (style : Style) (name : String) : Option String :=
  if "--".toList <+: name.toList then style name else none

variable {a b cs inner rest x y : List Char} {d : Nat} {p : List Char × List Char}

theorem closing?_eq_some (h : closing? d cs = some (inner, rest)) : cs = inner ++ ')' :: rest := by
  induction cs generalizing d inner with
  | nil => cases h
  | cons c cs ih =>
    rw [closing?] at h
    split at h
    · rename_i hc
      cases h
      rw [hc.1, List.nil_append]
    · obtain ⟨⟨inner', rest'⟩, hr, he⟩ := Option.map_eq_some_iff.1 h
      cases he
      rw [ih hr, List.cons_append]

theorem closing?_append (h : closing? d x = some p) (y : List Char) :
    closing? d (x ++ y) = some (p.1, p.2 ++ y) := by
  induction x generalizing d p with
  | nil => cases h
  | cons c x ih =>
    rw [List.cons_append, closing?]
    rw [closing?] at h
    split at h
    · rename_i hc
      cases h
      rw [if_pos hc]
    · rename_i hc
      obtain ⟨q, hq, rfl⟩ := Option.map_eq_some_iff.1 h
      rw [if_neg hc]
      dsimp only
      rw [ih hq]
      rfl

def Closed (y : List Char) : Prop :=
  ∀ d, closing? d y = none

theorem Closed.closing?_append (hy : Closed y) (x : List Char) :
    ∀ d, closing? d x = none → closing? d (x ++ y) = none := by
  induction x with
  | nil =>
    intro d _
    exact hy d
  | cons c x ih =>
    intro d h
    rw [List.cons_append, closing?]
    rw [closing?] at h
    split at h
    · cases h
    · rename_i hc
      rw [if_neg hc]
      dsimp only
      rw [ih _ (Option.map_eq_none_iff.1 h)]
      rfl

theorem reference?_eq_some_iff : reference? cs = some p ↔
    ∃ v a r rest, cs = v :: a :: r :: '(' :: rest ∧ (v ∈ ['v', 'V'] ∧ a ∈ ['a', 'A'] ∧ r ∈ ['r', 'R']) ∧
      closing? 0 rest = some p := by
  constructor
  · intro h
    rw [reference?.eq_def] at h
    split at h
    · rename_i v a r q rest
      split at h
      · rename_i hvar
        obtain ⟨hv, ha, hr, rfl⟩ := hvar
        exact ⟨v, a, r, rest, rfl, ⟨hv, ha, hr⟩, h⟩
      · cases h
    · cases h
  · rintro ⟨v, a, r, rest, rfl, ⟨hv, ha, hr⟩, h⟩
    rw [reference?, if_pos ⟨hv, ha, hr, rfl⟩, h]

theorem reference?_eq_some (h : reference? cs = some (inner, rest)) :
    ∃ front, front.length = 4 ∧ cs = front ++ (inner ++ ')' :: rest) := by
  obtain ⟨v, a, r, tail, rfl, _, hc⟩ := reference?_eq_some_iff.1 h
  exact ⟨[v, a, r, '('], rfl, by rw [← closing?_eq_some hc]; rfl⟩

theorem length_of_reference? (h : reference? cs = some p) : p.1.length + p.2.length + 5 = cs.length := by
  obtain ⟨front, hf, he⟩ := reference?_eq_some h
  rw [he, List.length_append, List.length_append, List.length_cons, hf]
  omega

theorem trim_within (cs : List Char) : trim cs <:+: cs := by
  obtain ⟨front, back, _, _, he, _⟩ := trim_spec cs
  exact ⟨front, back, he.symm⟩

theorem fallback_within {f : List Char} (h : fallbackIn? inner = some f) : f <:+: inner := by
  obtain ⟨⟨a, b⟩, hc, rfl⟩ := Option.map_eq_some_iff.1 h
  refine (trim_within b).trans ⟨a ++ [','], [], ?_⟩
  rw [cut?_eq_some hc]
  simp

/-- The text with its references replaced; `joined` tells whether it goes on behind a part of a name. -/
def substitute (style : Style) (joined : Bool) (cs : List Char) : Option (List Char) :=
  match cs with
  | [] => some []
  | c :: r =>
    match _h : if joined then none else reference? (c :: r) with
    | none => (substitute style (isNamePart c) r).map (c :: ·)
    | some p =>
      let value := match style.custom? (nameIn p.1) with
        | some v => some v.toList
        | none =>
          match _hf : fallbackIn? p.1 with
          | some f => substitute style false f
          | none => none
      value.bind fun v => (substitute style false p.2).map (v ++ ·)
termination_by cs.length
decreasing_by
  · simp
  · have hp := length_of_reference? (Option.ite_none_left_eq_some.1 _h).2
    have hf := (fallback_within _hf).length_le
    omega
  · have hp := length_of_reference? (Option.ite_none_left_eq_some.1 _h).2
    omega

def Style.substituted (style : Style) (text : String) : Option String :=
  (substitute style false text.toList).map String.ofList

def referenced (style : Style) (inner : List Char) : Option (List Char) :=
  ((style.custom? (nameIn inner)).map String.toList).or ((fallbackIn? inner).bind (substitute style false))

variable (style : Style)

theorem substitute_nil (j : Bool) : substitute style j [] = some [] := by
  rw [substitute]

theorem substitute_char {j : Bool} {c : Char} (h : j = true ∨ reference? (c :: cs) = none) :
    substitute style j (c :: cs) = (substitute style (isNamePart c) cs).map (c :: ·) := by
  have hnone : (if j = true then none else reference? (c :: cs)) = none := by
    rcases h with rfl | h
    · rfl
    · rw [h, ite_self]
  rw [substitute]
  split
  · rfl
  · rename_i hsome
    rw [hnone] at hsome
    cases hsome

theorem substitute_reference (h : reference? cs = some p) :
    substitute style false cs =
      (referenced style p.1).bind fun v => (substitute style false p.2).map (v ++ ·) := by
  cases cs with
  | nil => cases h
  | cons c r =>
    rw [substitute]
    split
    · rename_i hnone
      rw [if_neg Bool.false_ne_true, h] at hnone
      cases hnone
    · rename_i q hsome
      rw [if_neg Bool.false_ne_true, h] at hsome
      cases hsome
      dsimp only
      congr 1
      rw [referenced]
      cases style.custom? (nameIn p.1) with
      | some v => rfl
      | none =>
        dsimp only
        split
        · rename_i f hf
          rw [hf]
          rfl
        · rename_i hf
          rw [hf]
          rfl

theorem substitute_induction {motive : Bool → List Char → Prop} (nil : ∀ j, motive j [])
    (char : ∀ j c r, (j = true ∨ reference? (c :: r) = none) → motive (isNamePart c) r → motive j (c :: r))
    (reference : ∀ cs inner rest, reference? cs = some (inner, rest) →
      (∀ f, fallbackIn? inner = some f → motive false f) → motive false rest → motive false cs)
    (j : Bool) (cs : List Char) : motive j cs := by
  match cs with
  | [] => exact nil j
  | c :: r =>
    by_cases h : j = true ∨ reference? (c :: r) = none
    · exact char j c r h (substitute_induction nil char reference (isNamePart c) r)
    · rw [not_or, Bool.not_eq_true] at h
      obtain ⟨⟨inner, rest⟩, hp⟩ := Option.ne_none_iff_exists'.1 h.2
      have hlen := length_of_reference? hp
      rw [h.1]
      apply reference _ inner rest hp
      · intro f hf
        have hfallback := (fallback_within hf).length_le
        exact substitute_induction nil char reference false f
      · exact substitute_induction nil char reference false rest
termination_by cs.length
decreasing_by
  · simp
  · dsimp only at hlen ⊢; omega
  · dsimp only at hlen ⊢; omega

theorem substitute_congr {s t : Style} (j : Bool) (cs : List Char)
    (h : ∀ name : String, "--".toList <+: name.toList → name.toList <:+: cs → s name = t name) :
    substitute s j cs = substitute t j cs := by
  induction j, cs using substitute_induction with
  | nil j => rw [substitute_nil, substitute_nil]
  | char j c r hc ih =>
    have htail : substitute s (isNamePart c) r = substitute t (isNamePart c) r := by
      apply ih
      intro name hd hn
      exact h name hd (hn.trans (List.suffix_cons c r).isInfix)
    rw [substitute_char s hc, substitute_char t hc, htail]
  | reference cs inner rest hr ihf ih =>
    obtain ⟨front, _, he⟩ := reference?_eq_some hr
    have hinner : inner <:+: cs := ⟨front, ')' :: rest, by rw [he, List.append_assoc]⟩
    have hrest : rest <:+: cs := ⟨front ++ inner ++ [')'], [], by rw [he]; simp⟩
    have hname : (nameIn inner).toList <:+: cs := by
      rw [nameIn, String.toList_ofList]
      exact (trim_within _).trans ((List.takeWhile_prefix _).isInfix.trans hinner)
    have hcustom : s.custom? (nameIn inner) = t.custom? (nameIn inner) := by
      rw [Style.custom?, Style.custom?]
      split
      · rename_i hd
        exact h _ hd hname
      · rfl
    have hfallback : (fallbackIn? inner).bind (substitute s false) =
        (fallbackIn? inner).bind (substitute t false) := by
      cases hf : fallbackIn? inner with
      | none => rfl
      | some f => exact ihf f hf fun name hd hn => h name hd (hn.trans ((fallback_within hf).trans hinner))
    rw [substitute_reference s hr, substitute_reference t hr, referenced, referenced, hcustom, hfallback,
      ih fun name hd hn => h name hd (hn.trans hrest)]

theorem reference?_of_head {c : Char} (h : c ∉ ['v', 'V']) (r : List Char) : reference? (c :: r) = none := by
  rw [Option.eq_none_iff_forall_not_mem]
  intro p hp
  obtain ⟨v, a, r, rest, he, hvar, _⟩ := reference?_eq_some_iff.1 hp
  cases he
  exact h hvar.1

def Literal (text : List Char) : Prop :=
  ∀ c ∈ text, c ∉ ['v', 'V']

instance (text : List Char) : Decidable (Literal text) :=
  inferInstanceAs (Decidable (∀ c ∈ text, c ∉ ['v', 'V']))

theorem Literal.append (ha : Literal a) (hb : Literal b) : Literal (a ++ b) :=
  List.forall_mem_append.2 ⟨ha, hb⟩

theorem substitute_literal (hx : Literal x) (j : Bool) (y : List Char) :
    substitute style j (x ++ y) =
      (substitute style (x.foldl (fun _ c => isNamePart c) j) y).map (x ++ ·) := by
  induction x generalizing j with
  | nil => simp
  | cons c x ih =>
    rw [Literal, List.forall_mem_cons] at hx
    rw [List.cons_append, substitute_char style (.inr (reference?_of_head hx.1 _)), ih hx.2, Option.map_map,
      List.foldl_cons]
    rfl

theorem substitute_of_literal (hx : Literal x) (j : Bool) : substitute style j x = some x := by
  have h := substitute_literal style hx j []
  rw [List.append_nil, substitute_nil, Option.map_some, List.append_nil] at h
  exact h

theorem reference?_append (h : reference? x = some p) (y : List Char) :
    reference? (x ++ y) = some (p.1, p.2 ++ y) := by
  obtain ⟨v, a, r, rest, rfl, hvar, hc⟩ := reference?_eq_some_iff.1 h
  exact reference?_eq_some_iff.2 ⟨v, a, r, rest ++ y, rfl, hvar, closing?_append hc y⟩

theorem substitute_reference_append (h : reference? x = some (inner, [])) (y : List Char) :
    substitute style false (x ++ y) =
      (referenced style inner).bind fun v => (substitute style false y).map (v ++ ·) := by
  have hxy : reference? (x ++ y) = some (inner, y) := reference?_append h y
  rw [substitute_reference style hxy]

theorem reference?_comma (hy : Closed (',' :: y)) (h : reference? x = none) :
    reference? (x ++ ',' :: y) = none := by
  rw [Option.eq_none_iff_forall_not_mem] at h ⊢
  intro p hp
  obtain ⟨v, a, r, rest, he, hvar, hc⟩ := reference?_eq_some_iff.1 hp
  -- The comma comes behind the opening parenthesis, so the text before it has the beginning of a reference.
  rcases x with _ | ⟨v', _ | ⟨a', _ | ⟨r', _ | ⟨q, x⟩⟩⟩⟩
  all_goals simp only [List.nil_append, List.cons_append, List.cons.injEq] at he
  · simp [← he.1] at hvar
  · simp [← he.2.1] at hvar
  · simp [← he.2.2.1] at hvar
  · simp at he
  · obtain ⟨rfl, rfl, rfl, rfl, rfl⟩ := he
    cases hx : closing? 0 x with
    | none =>
      rw [hy.closing?_append x 0 hx] at hc
      cases hc
    | some q => exact h q (reference?_eq_some_iff.2 ⟨v', a', r', x, rfl, hvar, hx⟩)

theorem substitute_comma (hy : Closed (',' :: y)) (j : Bool) (x : List Char) :
    substitute style j (x ++ ',' :: y) =
      (substitute style j x).bind fun v => (substitute style false y).map fun w => v ++ ',' :: w := by
  -- A reference before the comma is closed before it: what follows the comma closes nothing.
  induction j, x using substitute_induction with
  | nil j =>
    rw [List.nil_append, substitute_nil, substitute_char style (.inr (reference?_of_head (by decide) y))]
    rfl
  | char j c r hc ih =>
    have hcomma : j = true ∨ reference? (c :: (r ++ ',' :: y)) = none :=
      hc.imp_right fun hr => reference?_comma hy hr
    rw [List.cons_append, substitute_char style hcomma, substitute_char style hc, ih]
    cases substitute style (isNamePart c) r with
    | none => rfl
    | some v =>
      rw [Option.map_some, Option.bind_some, Option.bind_some, Option.map_map]
      rfl
  | reference cs inner rest hr _ ih =>
    rw [substitute_reference style (reference?_append hr _), substitute_reference style hr, ih]
    cases referenced style inner with
    | none => rfl
    | some u =>
      rw [Option.bind_some, Option.bind_some]
      cases substitute style false rest with
      | none => rfl
      | some v =>
        rw [Option.map_some, Option.bind_some, Option.bind_some, Option.map_map]
        simp [Function.comp_def]

end UtilityCss.Cascade
