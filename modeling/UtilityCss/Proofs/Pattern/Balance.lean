import UtilityCss.Proofs.Pattern.Sequence

namespace UtilityCss.Pattern

variable {a b i cs : List Char}

/-- No closing brace comes before its opening brace, and none of these is left open. -/
structure Balanced (cs : List Char) : Prop where
  closed : ∀ front, front <+: cs → front.count '\x7d' ≤ front.count '\x7b'
  even : cs.count '\x7d' = cs.count '\x7b'

theorem balanced_iff : Balanced cs ↔
    (∀ front ∈ cs.inits, front.count '\x7d' ≤ front.count '\x7b') ∧ cs.count '\x7d' = cs.count '\x7b' := by
  simp only [List.mem_inits]
  exact ⟨fun h => ⟨h.closed, h.even⟩, fun h => ⟨h.1, h.2⟩⟩

instance (cs : List Char) : Decidable (Balanced cs) :=
  decidable_of_iff' _ balanced_iff

theorem prefix_append_cases {front : List Char} (h : front <+: a ++ b) :
    front <+: a ∨ ∃ t, front = a ++ t ∧ t <+: b := by
  rcases List.prefix_or_prefix_of_prefix h (List.prefix_append a b) with h' | ⟨t, rfl⟩
  · exact .inl h'
  · exact .inr ⟨t, rfl, (List.prefix_append_right_inj a).1 h⟩

theorem Balanced.append (ha : Balanced a) (hb : Balanced b) : Balanced (a ++ b) := by
  constructor
  · intro front hf
    rcases prefix_append_cases hf with hf | ⟨t, rfl, ht⟩
    · exact ha.closed front hf
    · have htail := hb.closed t ht
      have heven := ha.even
      rw [List.count_append, List.count_append]
      omega
  · rw [List.count_append, List.count_append, ha.even, hb.even]

theorem Braceless.balanced (h : Braceless a) : Balanced a := by
  have hzero (brace : Char) (hb : brace ∉ a) {front : List Char} (hf : front <+: a) : front.count brace = 0 :=
    List.count_eq_zero.2 fun hm => hb (hf.subset hm)
  constructor
  · intro front hf
    rw [hzero _ h.1 hf, hzero _ h.2 hf]
  · rw [hzero _ h.1 List.prefix_rfl, hzero _ h.2 List.prefix_rfl]

theorem Balanced.wrap (h : Balanced i) : Balanced ('\x7b' :: i ++ ['\x7d']) := by
  have heven : ('\x7b' :: i ++ ['\x7d']).count '\x7d' = ('\x7b' :: i ++ ['\x7d']).count '\x7b' := by
    simp [h.even]
  refine ⟨fun front hf => ?_, heven⟩
  rcases List.prefix_concat_iff.1 hf with rfl | hf
  · exact Nat.le_of_eq heven
  · rcases List.prefix_cons_iff.1 hf with rfl | ⟨t, rfl, ht⟩
    · exact Nat.le_refl 0
    · have hle := h.closed t ht
      simp
      omega

theorem Balanced.not_close {r : List Char} : ¬ Balanced ('\x7d' :: r) := by
  intro h
  have hle := h.closed ['\x7d'] (by simp)
  simp at hle

theorem Balanced.of_cons {c : Char} {r : List Char} (h : Balanced (c :: r)) (hc : c ≠ '\x7b' ∧ c ≠ '\x7d') :
    Balanced r := by
  have hcount (front : List Char) (brace : Char) (hb : c ≠ brace) : (c :: front).count brace = front.count brace :=
    List.count_cons_of_ne hb
  constructor
  · intro front hf
    have hle := h.closed (c :: front) ((List.prefix_cons_inj c).2 hf)
    rwa [hcount front _ hc.1, hcount front _ hc.2] at hle
  · have heven := h.even
    rwa [hcount r _ hc.1, hcount r _ hc.2] at heven

theorem exists_close {r : List Char} (depth : Nat) (h : r.count '\x7b' + depth < r.count '\x7d') :
    ∃ i b, r = i ++ '\x7d' :: b ∧ i.count '\x7d' = i.count '\x7b' + depth ∧
      ∀ front, front <+: i → front.count '\x7d' ≤ front.count '\x7b' + depth := by
  induction r generalizing depth with
  | nil => simp at h
  | cons c r ih =>
    by_cases hstop : c = '\x7d' ∧ depth = 0
    · obtain ⟨rfl, rfl⟩ := hstop
      exact ⟨[], r, rfl, rfl, by simp⟩
    · let opened := if c == '\x7b' then 1 else 0
      let shut := if c == '\x7d' then 1 else 0
      obtain ⟨inner, hinner⟩ : ∃ inner, inner + shut = depth + opened := by
        refine ⟨depth + opened - shut, ?_⟩
        by_cases hc : c = '\x7d'
        · have : depth ≠ 0 := fun hd => hstop ⟨hc, hd⟩
          simp only [shut, hc, beq_self_eq_true, if_true]
          omega
        · simp [shut, hc]
      rw [List.count_cons, List.count_cons] at h
      obtain ⟨i, b, rfl, heven, hclosed⟩ := ih inner (by omega)
      refine ⟨c :: i, b, rfl, ?_, ?_⟩
      · rw [List.count_cons, List.count_cons]
        omega
      · intro front hf
        rcases List.prefix_cons_iff.1 hf with rfl | ⟨t, rfl, ht⟩
        · simp
        · have ht := hclosed t ht
          rw [List.count_cons, List.count_cons]
          omega

theorem Balanced.exists_group {r : List Char} (h : Balanced ('\x7b' :: r)) :
    ∃ i b, r = i ++ '\x7d' :: b ∧ Balanced i ∧ Balanced b := by
  have heven := h.even
  simp only [List.count_cons_self, List.count_cons_of_ne (show '\x7b' ≠ '\x7d' by decide)] at heven
  obtain ⟨i, b, rfl, hi, hclosed⟩ := exists_close (r := r) 0 (by omega)
  refine ⟨i, b, rfl, ⟨hclosed, hi⟩, ?_⟩
  constructor
  · intro front hf
    have hwhole : '\x7b' :: (i ++ '\x7d' :: front) <+: '\x7b' :: (i ++ '\x7d' :: b) := by
      simpa using hf
    have hle := h.closed _ hwhole
    simp at hle
    omega
  · simp at heven
    omega

theorem Balanced.induction {P : List Char → Prop} (nil : P [])
    (sign : ∀ c r, c ≠ '\x7b' → c ≠ '\x7d' → P r → P (c :: r))
    (group : ∀ i b, Balanced i → P i → P b → P ('\x7b' :: i ++ '\x7d' :: b)) (h : Balanced cs) : P cs := by
  induction hn : cs.length using Nat.strong_induction_on generalizing cs with
  | _ n ih =>
  cases cs with
  | nil => exact nil
  | cons c r =>
    rw [List.length_cons] at hn
    by_cases hopen : c = '\x7b'
    · subst hopen
      obtain ⟨i, b, rfl, hi, hb⟩ := h.exists_group
      rw [List.length_append, List.length_cons] at hn
      exact group i b hi (ih i.length (by omega) hi rfl) (ih b.length (by omega) hb rfl)
    · have hclose : c ≠ '\x7d' := by
        rintro rfl
        exact Balanced.not_close h
      exact sign c r hopen hclose (ih r.length (by omega) (h.of_cons ⟨hopen, hclose⟩) rfl)

def Alternatives.modifyFirst (f : Sequence true → Sequence true) : Alternatives → Alternatives
  | .last s => .last (f s)
  | .more s rest => .more (f s) rest

theorem Alternatives.text_modifyFirst {f : Sequence true → Sequence true} {p : List Char}
    (h : ∀ s, (f s).text = p ++ s.text) (as : Alternatives) : (as.modifyFirst f).text = p ++ as.text := by
  cases as with
  | last s => exact h s
  | more s rest => rw [modifyFirst, text, text, h, List.append_assoc]

theorem exists_alternatives (h : Balanced cs) : ∃ as : Alternatives, as.text = cs := by
  refine Balanced.induction (P := fun cs => ∃ as : Alternatives, as.text = cs) ?nil ?sign ?group h
  case nil => exact ⟨.last .done, rfl⟩
  case sign =>
    rintro c _ hopen hclose ⟨behind, rfl⟩
    by_cases hcomma : c = ','
    · exact ⟨.more .done behind, by rw [hcomma]; rfl⟩
    · exact ⟨_, behind.text_modifyFirst (p := [c]) (f := .sign c ⟨hopen, hclose, fun _ => hcomma⟩) fun s => rfl⟩
  case group =>
    rintro _ _ - ⟨inner, rfl⟩ ⟨behind, rfl⟩
    refine ⟨behind.modifyFirst (.group inner), ?_⟩
    rw [behind.text_modifyFirst (p := '\x7b' :: inner.text ++ ['\x7d']) fun s => by simp [Sequence.text]]
    simp

theorem exists_sequence (h : Balanced cs) : ∃ t : Sequence false, t.text = cs := by
  refine Balanced.induction (P := fun cs => ∃ t : Sequence false, t.text = cs) ?nil ?sign ?group h
  case nil => exact ⟨.done, rfl⟩
  case sign =>
    rintro c _ hopen hclose ⟨behind, rfl⟩
    exact ⟨.sign c ⟨hopen, hclose, nofun⟩ behind, rfl⟩
  case group =>
    rintro i _ hi - ⟨behind, rfl⟩
    obtain ⟨inner, rfl⟩ := exists_alternatives hi
    exact ⟨.group inner behind, rfl⟩

def Nested (cs : List Char) : Prop :=
  ∃ a i b, cs = a ++ '\x7b' :: i ++ '\x7d' :: b ∧ Balanced i ∧ ¬ Braceless i

theorem Nested.cons (h : Nested cs) (c : Char) : Nested (c :: cs) := by
  obtain ⟨a, i, b, rfl, hi⟩ := h
  exact ⟨c :: a, i, b, rfl, hi⟩

theorem Nested.two_le_opens (h : Nested cs) : 2 ≤ opens cs := by
  obtain ⟨a, i, b, rfl, hi, hb⟩ := h
  have hopen : i.count '\x7b' ≠ 0 := by
    intro hzero
    exact hb ⟨List.count_eq_zero.1 hzero, List.count_eq_zero.1 (hi.even.trans hzero)⟩
  simp [opens]
  omega

def rowText (first : List Char) (groups : List (List Char × List Char)) : List Char :=
  first ++ groups.flatMap fun g => '\x7b' :: g.1 ++ '\x7d' :: g.2

/-- The groups are all that a row has of pairs of braces. -/
structure Flat (first : List Char) (groups : List (List Char × List Char)) : Prop where
  braceless : ∀ g ∈ groups, Braceless g.1
  unpaired : Unpaired (first ++ groups.flatMap Prod.snd)

variable {first : List Char} {groups : List (List Char × List Char)}

theorem rowText_cons (first : List Char) (g : List Char × List Char) (groups : List (List Char × List Char)) :
    rowText first (g :: groups) = first ++ '\x7b' :: g.1 ++ '\x7d' :: rowText g.2 groups := by
  simp [rowText]

theorem exists_close_behind (h : Flat first groups) (hfirst : '\x7d' ∉ first)
    (hclose : '\x7d' ∈ groups.flatMap Prod.snd) :
    ∃ i b, rowText first groups = i ++ '\x7d' :: b ∧ Balanced i ∧ ¬ Braceless i := by
  induction groups generalizing first with
  | nil => cases hclose
  | cons g groups ih =>
    obtain ⟨hall, hunpaired⟩ := h
    rw [List.forall_mem_cons] at hall
    have hfront : Braceless first := ⟨hunpaired.not_open hclose, hfirst⟩
    rw [List.flatMap_cons] at hunpaired hclose
    have hrest : Flat g.2 groups := ⟨hall.2, hunpaired.right⟩
    obtain ⟨i, b, hi, hbalanced⟩ : ∃ i b, rowText g.2 groups = i ++ '\x7d' :: b ∧ Balanced i := by
      by_cases hg : '\x7d' ∈ g.2
      · obtain ⟨i, b, hb, hi⟩ := List.eq_append_cons_of_mem hg
        have hopen : '\x7b' ∉ i := by
          have hu := hrest.unpaired
          rw [hb, List.append_assoc] at hu
          exact hu.not_open (by simp)
        refine ⟨i, rowText b groups, ?_, Braceless.balanced ⟨hopen, hi⟩⟩
        simp [rowText, hb]
      · have hlater : '\x7d' ∈ groups.flatMap Prod.snd := (List.mem_append.1 hclose).resolve_left hg
        obtain ⟨i, b, hi, hbalanced, -⟩ := ih hrest hg hlater
        exact ⟨i, b, hi, hbalanced⟩
    refine ⟨first ++ ('\x7b' :: g.1 ++ ['\x7d']) ++ i, b, ?_, ?_, fun hb => hb.1 (by simp)⟩
    · rw [rowText_cons, hi]
      simp
    · exact (hfront.balanced.append hall.1.balanced.wrap).append hbalanced

theorem exists_row (h : ¬ Nested cs) : ∃ first groups, Flat first groups ∧ rowText first groups = cs := by
  induction cs with
  | nil => exact ⟨[], [], ⟨nofun, .of_not_close List.not_mem_nil⟩, rfl⟩
  | cons c r ih =>
    obtain ⟨first, groups, ⟨hall, hunpaired⟩, rfl⟩ := ih fun hr => h (hr.cons c)
    by_cases hopen : c = '\x7b'
    · subst hopen
      by_cases hclose : '\x7d' ∈ first
      · obtain ⟨i, t, rfl, hi⟩ := List.eq_append_cons_of_mem hclose
        rw [List.append_assoc] at hunpaired
        have hbraceless : Braceless i := ⟨hunpaired.not_open (by simp), hi⟩
        have hbehind : Unpaired (t ++ groups.flatMap Prod.snd) := Unpaired.right (a := ['\x7d']) hunpaired.right
        refine ⟨[], (i, t) :: groups, ⟨List.forall_mem_cons.2 ⟨hbraceless, hall⟩, ?_⟩, ?_⟩
        · simpa using hbehind
        · simp [rowText]
      · by_cases hlater : '\x7d' ∈ groups.flatMap Prod.snd
        · obtain ⟨i, b, hi, hnested⟩ := exists_close_behind ⟨hall, hunpaired⟩ hclose hlater
          exact absurd ⟨[], i, b, by rw [hi]; rfl, hnested⟩ h
        · have hshut : '\x7d' ∉ '\x7b' :: first ++ groups.flatMap Prod.snd := by
            rw [List.mem_append, List.mem_cons, not_or, not_or]
            exact ⟨⟨by decide, hclose⟩, hlater⟩
          exact ⟨'\x7b' :: first, groups, ⟨hall, .of_not_close hshut⟩, rfl⟩
    · obtain ⟨front, back, he, hf, hback⟩ := hunpaired
      refine ⟨c :: first, groups, ⟨hall, c :: front, back, ?_, ?_, hback⟩, rfl⟩
      · rw [List.cons_append, he, List.cons_append]
      · rw [List.mem_cons, not_or]
        exact ⟨Ne.symm hopen, hf⟩

end UtilityCss.Pattern
