import UtilityCss.Proofs.Stylesheet.Minified
import UtilityCss.Proofs.Stylesheet.Rendering
import UtilityCss.Proofs.Theme.Leaves

namespace UtilityCss.Stylesheet

open Text

structure Calm (text : List Char) : Prop where
  inert : Inert text
  uncommented : Apart '/' '*' text

instance (text : List Char) : Decidable (Calm text) :=
  decidable_of_iff (Inert text ∧ Apart '/' '*' text) ⟨fun h => ⟨h.1, h.2⟩, fun h => ⟨h.inert, h.uncommented⟩⟩

theorem calm_nil : Calm [] :=
  ⟨nofun, .nil⟩

inductive Deeper : List Char → List Char → Prop
  | nil : Deeper [] []
  | keep (c : Char) {a b : List Char} (h : Deeper a b) : Deeper (c :: a) (c :: b)
  | deepen {a b : List Char} (h : Deeper a b) : Deeper ('\n' :: a) ('\n' :: ' ' :: ' ' :: b)

namespace Deeper

variable {a b c d : List Char}

theorem refl (a : List Char) : Deeper a a := by
  induction a with
  | nil => exact nil
  | cons c a ih => exact keep c ih

theorem append (h : Deeper a b) (k : Deeper c d) : Deeper (a ++ c) (b ++ d) := by
  induction h with
  | nil => exact k
  | keep x h ih => exact keep x ih
  | deepen h ih => exact deepen ih

theorem head?_eq (h : Deeper a b) : b.head? = a.head? := by
  cases h <;> rfl

theorem subset (h : Deeper a b) : ∀ x ∈ b, x ∈ a ∨ isBlank x = true := by
  induction h with
  | nil => nofun
  | keep x h ih =>
    intro y hy
    rcases List.mem_cons.1 hy with rfl | hy
    · exact .inl (List.mem_cons_self ..)
    · exact (ih y hy).imp_left (List.mem_cons_of_mem x)
  | @deepen a b h ih =>
    intro y hy
    simp only [List.mem_cons] at hy
    rcases hy with rfl | rfl | rfl | hy
    · exact .inr (by decide)
    · exact .inr (by decide)
    · exact .inr (by decide)
    · exact (ih y hy).imp_left (List.mem_cons_of_mem _)

theorem apart (h : Deeper a b) {x y : Char} (hx : isBlank x = false) (hy : isBlank y = false)
    (ha : Apart x y a) : Apart x y b := by
  have hne {c : Char} (hc : isBlank c = true) : c ≠ x ∧ c ≠ y := by
    refine ⟨?_, ?_⟩ <;> rintro rfl
    · rw [hx] at hc
      cases hc
    · rw [hy] at hc
      cases hc
  have hspace := hne isBlank_space
  have hnewline := hne (by decide : isBlank '\n' = true)
  induction h with
  | nil => exact .nil
  | keep c h ih =>
    rw [apart_cons] at ha ⊢
    rw [h.head?_eq]
    exact ⟨ha.1, ih ha.2⟩
  | deepen h ih =>
    refine apart_cons.2 ⟨fun he => absurd he hnewline.1, apart_cons.2 ⟨fun he => absurd he hspace.1,
      apart_cons.2 ⟨fun he => absurd he hspace.1, ih (apart_cons.1 ha).2⟩⟩⟩

theorem calm (h : Deeper a b) (ha : Calm a) : Calm b := by
  refine ⟨fun x hx => ?_, h.apart (by decide) (by decide) ha.uncommented⟩
  rcases h.subset x hx with hx | hx
  · exact ha.inert x hx
  · have hblank : Blanks [x] := by simpa [Blanks] using hx
    exact inert_of_blanks hblank x (List.mem_singleton.2 rfl)

theorem concat {mark : Char} (hm : mark ≠ '\n') (h : Deeper (a ++ [mark]) b) :
    ∃ b', b = b' ++ [mark] ∧ Deeper a b' := by
  induction a generalizing b with
  | nil =>
    cases h with
    | keep _ h =>
      cases h
      exact ⟨[], rfl, nil⟩
    | deepen => exact absurd rfl hm
  | cons c a ih =>
    cases h with
    | keep _ h =>
      obtain ⟨b', rfl, hb⟩ := ih h
      exact ⟨c :: b', rfl, keep c hb⟩
    | deepen h =>
      obtain ⟨b', rfl, hb⟩ := ih h
      exact ⟨'\n' :: ' ' :: ' ' :: b', rfl, deepen hb⟩

theorem squeeze_eq (h : Deeper a b) {σ : Spacing Char} (hσ : σ.blank = isBlank) (glue follow : Bool) :
    σ.squeeze glue follow b = σ.squeeze glue follow a := by
  have hspace : σ.blank ' ' = true := by rw [hσ]; decide
  have hnewline : σ.blank '\n' = true := by rw [hσ]; decide
  induction h generalizing glue with
  | nil => rfl
  | keep c h ih => rw [Spacing.squeeze, Spacing.squeeze, Spacing.gives_congr h.head?_eq, ih, ih, ih]
  | deepen h ih =>
    have hgives (r : List Char) : σ.gives follow (' ' :: r) = true := by rw [Spacing.gives, hspace, Bool.true_or]
    rw [Spacing.squeeze, if_pos hnewline, hgives, Bool.or_true, if_pos rfl, Spacing.squeeze, if_pos hspace, hgives,
      Bool.or_true, if_pos rfl, Spacing.squeeze, if_pos hspace, Spacing.squeeze, if_pos hnewline,
      Spacing.gives_congr h.head?_eq, ih, ih]

theorem append_inv (h : Deeper (a ++ b) c) : ∃ a' b', c = a' ++ b' ∧ Deeper a a' ∧ Deeper b b' := by
  induction a generalizing c with
  | nil => exact ⟨[], c, rfl, .nil, h⟩
  | cons x a ih =>
    cases h with
    | keep _ h =>
      obtain ⟨a', b', rfl, ha, hb⟩ := ih h
      exact ⟨x :: a', b', rfl, ha.keep x, hb⟩
    | deepen h =>
      obtain ⟨a', b', rfl, ha, hb⟩ := ih h
      exact ⟨'\n' :: ' ' :: ' ' :: a', b', rfl, ha.deepen, hb⟩

theorem eq_of_row (h : Deeper a b) (hn : '\n' ∉ a) : b = a := by
  induction h with
  | nil => rfl
  | keep c h ih => rw [ih fun hm => hn (List.mem_cons_of_mem c hm)]
  | deepen => exact absurd (List.mem_cons_self ..) hn

end Deeper

theorem deeper_unlines (first : String) (rest : List String) :
    Deeper (unlines (first :: rest)).toList (unlines (first :: rest.map padded)).toList := by
  induction rest generalizing first with
  | nil => exact Deeper.refl _
  | cons next rest ih =>
    rw [List.map_cons, toList_unlines_cons, toList_unlines_cons]
    apply (Deeper.refl _).append
    rw [padded]
    split
    · exact (ih next).keep '\n'
    · have hindent : "  ".toList = [' ', ' '] := by decide
      rw [unlines_cons_append, String.toList_append, hindent]
      exact (ih next).deepen

theorem exists_deeper_indented (text : String) :
    ∃ gap t, Blanks gap ∧ (indented text).toList = gap ++ t ∧ Deeper text.toList t := by
  obtain ⟨first, rest, hp⟩ := List.exists_cons_of_ne_nil (pieces_ne_nil '\n' text)
  have htext : unlines (first :: rest) = text := by
    rw [← hp]
    exact intercalate_pieces rfl text
  have hdeeper := deeper_unlines first rest
  have hindented : indented text = unlines (padded first :: rest.map padded) := by
    rw [indented_eq, hp]
    rfl
  rw [htext] at hdeeper
  rw [hindented, padded]
  split
  · exact ⟨[], _, List.forall_mem_nil _, rfl, hdeeper⟩
  · refine ⟨"  ".toList, _, by decide, ?_, hdeeper⟩
    rw [unlines_cons_append, String.toList_append]

theorem deeper_shifted (line : String) : Deeper line.toList (shifted line).toList := by
  have hline : unlines (pieces '\n' line) = line := intercalate_pieces rfl line
  rw [shifted]
  split
  · exact Deeper.refl _
  · rename_i first rest hp
    rw [hp] at hline
    have hd := deeper_unlines first rest
    rwa [hline] at hd

theorem Apart.trimmed {x y : Char} {text : List Char} (h : Apart x y text) : Apart x y (trim text) := by
  obtain ⟨front, back, _, _, ht, _⟩ := trim_spec text
  rw [ht] at h
  exact (List.isChain_append.1 (List.isChain_append.1 h).1).2.1

theorem Calm.append {a b : List Char} (ha : Calm a) (hb : Calm b) (h : b.head? ≠ some '*' ∨ a.getLast? ≠ some '/') :
    Calm (a ++ b) :=
  ⟨List.forall_mem_append.2 ⟨ha.inert, hb.inert⟩, apart_append ha.uncommented hb.uncommented h⟩

theorem Calm.of_class {p : Char → Bool} (hp : ∀ d ∈ '/' :: marks, p d = false) {text : List Char}
    (h : ∀ c ∈ text, p c = true) : Calm text := by
  have hne {c : Char} (hc : c ∈ text) : c ∉ '/' :: marks := not_mem_of_class hp (h c hc)
  exact ⟨fun c hc hm => hne hc (List.mem_cons_of_mem _ hm),
    apart_of_not_mem fun hm => hne hm (List.mem_cons_self ..)⟩

theorem inert_squeezed {run : List Char} (h : Inert run) : Inert (squeezed run) := by
  intro c hc
  rcases Spacing.squeeze_subset true true run c hc with rfl | hm
  · decide
  · exact h c hm

theorem Calm.steady {run : List Char} (h : Calm run) (mark : Char) : Cut.Steady ⟨trim run, mark⟩ where
  uncommented := Apart.trimmed h.uncommented
  contained := by
    rw [squeezed_trim]
    exact (inert_squeezed h.inert).contained
  unclosed := by
    have hnot : ';' ∉ squeezed run := fun hm => inert_squeezed h.inert ';' hm (by decide)
    rw [squeezed_trim]
    exact apart_append (apart_of_not_mem hnot) (.singleton mark) (.inr fun hl => hnot (List.mem_of_getLast? hl))

theorem steady_close : Cut.Steady ⟨[], '\x7d'⟩ :=
  Calm.steady ⟨by decide, .nil⟩ '\x7d'

def CalmLine (line : String) : Prop :=
  ∃ run, line.toList = run ++ [';'] ∧ Calm run ∧ ':' ∈ run

theorem declarationOf_eq {line : String} {run : List Char} (h : line.toList = run ++ [';']) :
    declarationOf line = run := by
  rw [declarationOf, h, List.dropLast_concat]

theorem CalmLine.calm {line : String} (h : CalmLine line) : Calm (declarationOf line) := by
  obtain ⟨run, hline, hrun, _⟩ := h
  rwa [declarationOf_eq hline]

theorem CalmLine.readable {line : String} (h : CalmLine line) : ReadableLine line := by
  obtain ⟨run, hline, hrun, hcolon⟩ := h
  refine ⟨by rw [hline, List.getLast?_concat], ?_, ?_⟩ <;> rw [declarationOf_eq hline]
  · exact hrun.inert.contained
  · rw [List.all_eq_false]
    exact ⟨':', hcolon, by decide⟩

theorem Deeper.mem {a b : List Char} (h : Deeper a b) {x : Char} (hx : x ∈ a) : x ∈ b := by
  induction h with
  | nil => exact hx
  | keep c h ih =>
    rcases List.mem_cons.1 hx with rfl | hx
    · exact List.mem_cons_self ..
    · exact List.mem_cons_of_mem _ (ih hx)
  | deepen h ih =>
    rcases List.mem_cons.1 hx with rfl | hx
    · exact List.mem_cons_self ..
    · exact List.mem_cons_of_mem _ (List.mem_cons_of_mem _ (List.mem_cons_of_mem _ (ih hx)))

theorem CalmLine.shifted {line : String} (h : CalmLine line) :
    CalmLine (shifted line) ∧ ∀ σ : Spacing Char, σ.blank = isBlank →
      σ.squeeze true true (declarationOf (Stylesheet.shifted line)) = σ.squeeze true true (declarationOf line) := by
  obtain ⟨run, hline, hrun, hcolon⟩ := h
  have hdeeper := deeper_shifted line
  rw [hline] at hdeeper
  obtain ⟨run', hline', hd⟩ := hdeeper.concat (by decide)
  refine ⟨⟨run', hline', hd.calm hrun, hd.mem hcolon⟩, fun σ hσ => ?_⟩
  rw [declarationOf_eq hline, declarationOf_eq hline']
  exact hd.squeeze_eq hσ true true

theorem calmLine {property value : String} (hp : Calm property.toList) (hv : Calm value.toList) :
    CalmLine (property ++ ": " ++ value ++ ";") := by
  have hcolon : Calm [':', ' '] := ⟨by decide, apart_of_not_mem (by decide)⟩
  refine ⟨property.toList ++ [':', ' '] ++ value.toList, by simp, ?_, by simp⟩
  exact (hp.append hcolon (.inl (by decide))).append hv (.inr (by simp))

theorem calm_property (t : Theme) : ∀ d ∈ t.properties, Calm d.1.toList := by
  intro d hd
  obtain ⟨r, hr, _, hall⟩ := property_spelled t d hd
  have hname : ∀ c ∈ d.1.toList, isNameChar c = true := by
    rw [hr, List.forall_mem_cons, List.forall_mem_cons]
    exact ⟨by decide, by decide, hall⟩
  exact Calm.of_class (by decide) hname

end UtilityCss.Stylesheet
