import Mathlib.Data.List.Chain
import UtilityCss.Proofs.Stylesheet.Reading
import UtilityCss.Proofs.Text.Squeeze
import UtilityCss.Stylesheet.Minify

namespace UtilityCss.Stylesheet

open Text

def markup : Spacing Char :=
  ⟨isBlank, isMark, ' ', isBlank_space⟩

def squeezed (run : List Char) : List Char :=
  markup.squeeze true true run

def Apart (x y : Char) (text : List Char) : Prop :=
  text.IsChain fun a b => ¬ (a = x ∧ b = y)

instance (x y : Char) (text : List Char) : Decidable (Apart x y text) :=
  inferInstanceAs (Decidable (List.IsChain _ text))

def merged : List Cut → List Cut
  | e :: f :: es =>
    if e.mark = ';' ∧ f = ⟨[], '\x7d'⟩ then ⟨e.run, '\x7d'⟩ :: merged es else e :: merged (f :: es)
  | es => es

structure Cut.Steady (e : Cut) : Prop where
  uncommented : Apart '/' '*' e.run
  contained : Contained (squeezed e.run)
  unclosed : Apart ';' '\x7d' (squeezed e.run ++ [e.mark])

@[simp] theorem blank_markup (c : Char) : markup.blank c = isBlank c := rfl

@[simp] theorem mark_markup (c : Char) : markup.mark c = isMark c := rfl

theorem collapse_solid {c : Char} (h : isBlank c = false) (r : List Char) :
    collapse (c :: r) = c :: collapse r := by
  rw [collapse.eq_def]
  simp [h]

theorem collapse_blank {c : Char} (h : isBlank c = true) (r : List Char) :
    collapse (c :: r) = if r.head?.any isBlank then collapse r else ' ' :: collapse r := by
  rw [collapse.eq_def]
  cases r with
  | nil => simp [h, collapse.eq_def]
  | cons d r =>
    dsimp only
    rw [if_pos h]
    rfl

theorem startsWithMark_collapse {text : List Char} (h : text.head?.any isBlank = false) :
    startsWithMark (collapse text) = markup.gives false text := by
  cases text with
  | nil => rfl
  | cons d r =>
    have hd : isBlank d = false := h
    rw [collapse_solid hd, startsWithMark, Spacing.gives, blank_markup, hd, Bool.false_or]
    rfl

theorem tighten_collapse (glue : Bool) (text : List Char) :
    tighten glue (collapse text) = markup.squeeze glue false text := by
  have hspace := isBlank_space
  induction text generalizing glue with
  | nil => rfl
  | cons c r ih =>
    rw [Spacing.squeeze, blank_markup]
    by_cases hc : isBlank c = true
    · rw [if_pos hc, collapse_blank hc]
      cases hr : r.head?.any isBlank with
      | true =>
        have hgives : markup.gives false r = true := by
          cases r with
          | nil => cases hr
          | cons d r =>
            have hd : isBlank d = true := hr
            simp [Spacing.gives, hd]
        rw [if_pos rfl, hgives, Bool.or_true, if_pos rfl, ih]
      | false =>
        rw [if_neg Bool.false_ne_true, tighten, if_pos hspace, startsWithMark_collapse hr, ih, ih]
        rfl
    · rw [if_neg hc, collapse_solid (by simpa using hc), tighten, if_neg hc, ih, mark_markup]

theorem isMark_of_delimiter {c : Char} (h : c ∈ delimiters) : isMark c = true := by
  have hall : ∀ d ∈ delimiters, isMark d = true := by decide
  exact hall c h

theorem squeeze_trim {σ : Spacing Char} (hσ : σ.blank = isBlank) (run : List Char) :
    σ.squeeze true true (trim run) = σ.squeeze true true run := by
  obtain ⟨front, back, hf, hb, ht, _⟩ := trim_spec run
  have hblank {blanks : List Char} (h : Blanks blanks) : ∀ c ∈ blanks, σ.blank c = true := by rwa [hσ]
  conv_rhs => rw [ht]
  rw [Spacing.squeeze_last (hblank hb), Spacing.squeeze_blanks (hblank hf)]

theorem squeezed_trim (run : List Char) : squeezed (trim run) = squeezed run :=
  squeeze_trim rfl run

theorem solid_squeezed (run : List Char) : Solid (squeezed run) :=
  ⟨Spacing.first_squeeze true run, Spacing.last_squeeze true run⟩

theorem squeeze_false (follow : Bool) (text : List Char) :
    ∃ front, Blanks front ∧ markup.squeeze false follow text = front ++ markup.squeeze true follow text := by
  induction text with
  | nil => exact ⟨[], nofun, rfl⟩
  | cons c r ih =>
    rw [Spacing.squeeze, Spacing.squeeze, Bool.true_or, if_pos rfl]
    split
    · split
      · exact ih
      · rename_i hkeep
        rw [Bool.false_or, Bool.not_eq_true] at hkeep
        exact ⟨[' '], by decide, congrArg _ (Spacing.squeeze_of_not_gives hkeep false true)⟩
    · exact ⟨[], nofun, rfl⟩

theorem ofCuts_cons (e : Cut) (es : List Cut) : ofCuts (e :: es) = e.run ++ e.mark :: ofCuts es := by
  simp [ofCuts]

theorem squeeze_ofCuts {es : List Cut} (h : ∀ e ∈ es, e.mark ∈ delimiters) {tail : List Char}
    (ht : Blanks tail) :
    markup.squeeze true false (ofCuts es ++ tail) = ofCuts (es.map (Cut.map squeezed)) := by
  induction es with
  | nil =>
    have htail : markup.squeeze true false (tail ++ []) = [] :=
      Spacing.squeeze_blanks (fun c hc => ht c hc) false []
    rwa [List.append_nil] at htail
  | cons e es ih =>
    rw [List.forall_mem_cons] at h
    have hmark := isMark_of_delimiter h.1
    have hblank : markup.blank e.mark = false := by
      have hb : ∀ d ∈ delimiters, isBlank d = false := by decide
      exact hb e.mark h.1
    rw [ofCuts_cons, List.append_assoc, List.cons_append, Spacing.squeeze_append hblank, Spacing.squeeze_solid hblank]
    change markup.squeeze true (isMark e.mark) e.run ++ e.mark :: markup.squeeze (isMark e.mark) false _ = _
    rw [hmark, ih h.2]
    simp [ofCuts, Cut.map, squeezed]

theorem dropComments_eq {text : List Char} (h : Apart '/' '*' text) : dropComments text = text := by
  fun_induction dropComments text with
  | case1 r rest hr ih =>
    exact absurd ⟨rfl, rfl⟩ (List.isChain_cons_cons.1 h).1
  | case2 r hr ih =>
    exact absurd ⟨rfl, rfl⟩ (List.isChain_cons_cons.1 h).1
  | case3 c r hr ih =>
    rw [ih h.tail]
  | case4 => rfl

theorem dropLastSemicolons_cons {c : Char} {r : List Char} (h : c = ';' → r.head? ≠ some '\x7d') :
    dropLastSemicolons (c :: r) = c :: dropLastSemicolons r := by
  rw [dropLastSemicolons]
  rintro r' rfl rfl
  exact h rfl rfl

theorem dropLastSemicolons_run {run : List Char} {mark : Char} (h : Apart ';' '\x7d' (run ++ [mark]))
    (rest : List Char) :
    dropLastSemicolons (run ++ mark :: rest) = run ++ dropLastSemicolons (mark :: rest) := by
  induction run with
  | nil => rfl
  | cons c r ih =>
    rw [List.cons_append, dropLastSemicolons_cons, ih h.tail, List.cons_append]
    rintro rfl hhead
    cases r with
    | nil =>
      cases hhead
      exact (List.isChain_cons_cons.1 h).1 ⟨rfl, rfl⟩
    | cons d r =>
      cases hhead
      exact (List.isChain_cons_cons.1 h).1 ⟨rfl, rfl⟩

theorem head?_ofCuts {e : Cut} (h : e.Sound) (hne : e ≠ ⟨[], '\x7d'⟩) (es : List Cut) :
    (ofCuts (e :: es)).head? ≠ some '\x7d' := by
  obtain ⟨run, mark⟩ := e
  rintro hx
  cases run with
  | nil =>
    cases hx
    exact hne rfl
  | cons c r =>
    cases hx
    have hcut : Mode.bare.cutsAt '\x7d' = true := by decide
    have hscan := h.run
    rw [Contained, scan, if_pos hcut] at hscan
    cases hscan

theorem dropLastSemicolons_ofCuts {es : List Cut} (h : ∀ e ∈ es, e.Sound)
    (hd : ∀ e ∈ es, Apart ';' '\x7d' (e.run ++ [e.mark])) :
    dropLastSemicolons (ofCuts es) = ofCuts (merged es) := by
  fun_induction merged es with
  | case1 e f es hm ih =>
    obtain ⟨run, mark⟩ := e
    obtain ⟨rfl, rfl⟩ := hm
    simp only [List.forall_mem_cons] at h hd
    have hrest : ofCuts (⟨[], '\x7d'⟩ :: es) = '\x7d' :: ofCuts es := ofCuts_cons _ _
    rw [ofCuts_cons, dropLastSemicolons_run hd.1, hrest, dropLastSemicolons, ih h.2.2 hd.2.2, ofCuts_cons]
  | case2 e f es hm ih =>
    have hrest := List.forall_mem_cons.1 h
    have hrest' := List.forall_mem_cons.1 hd
    rw [ofCuts_cons e (f :: es), dropLastSemicolons_run hrest'.1, dropLastSemicolons_cons, ih hrest.2 hrest'.2,
      ofCuts_cons e]
    intro hmark
    exact head?_ofCuts (List.forall_mem_cons.1 hrest.2).1 (fun hf => hm ⟨hmark, hf⟩) es
  | case3 es hes =>
    match es with
    | [] => rfl
    | [e] =>
      have hnone : (ofCuts []).head? ≠ some '\x7d' := by decide
      rw [ofCuts_cons, dropLastSemicolons_run (hd e (List.mem_cons_self ..)), dropLastSemicolons_cons fun _ => hnone]
      rfl
    | e :: f :: es => exact absurd rfl (hes e f es)

theorem close_declared (x : Frame) (run : List Char) (outer : List Frame) :
    { x with declarations := declared run x.declarations }.close [] outer = x.close run outer := by
  rfl

theorem assemble_merged (tail : List Char) (around : List Frame) (es : List Cut) :
    assemble tail around (merged es) = assemble tail around es := by
  fun_induction merged es generalizing around with
  | case1 e f es hm ih =>
    obtain ⟨run, mark⟩ := e
    obtain ⟨rfl, rfl⟩ := hm
    rw [assemble_declare]
    cases around with
    | nil => exact ih []
    | cons x outer =>
      rw [declare, assemble_close, assemble_close, close_declared, ih]
  | case2 e f es hm ih =>
    simp only [assemble, ih]
  | case3 es hes => rfl

def Mode.Sane (m : Mode) : Prop :=
  ∀ q ∈ m.quote, isBlank q = false

theorem Mode.after_blank {m : Mode} (hm : m.Sane) (he : m.escaped = false) {c : Char} (hc : isBlank c = true) :
    m.cutsAt c = false ∧ m.after c = m := by
  have hne {d : Char} (hd : isBlank d = false) : c ≠ d := by
    rintro rfl
    rw [hc] at hd
    cases hd
  have hcut : delimiters.contains c = false := by
    simp [delimiters, hne (by decide : isBlank '\x7b' = false), hne (by decide : isBlank '\x7d' = false),
      hne (by decide : isBlank ';' = false)]
  have hslash : c ≠ '\\' := hne (by decide)
  refine ⟨by rw [cutsAt, hcut, Bool.and_false], ?_⟩
  obtain ⟨quote, escaped⟩ := m
  cases he
  cases quote with
  | none =>
    have hdouble : c ≠ '"' := hne (by decide)
    have hsingle : c ≠ '\'' := hne (by decide)
    simp [after, hslash, hdouble, hsingle]
  | some q =>
    have hq : c ≠ q := hne (hm q rfl)
    simp [after, hslash, hq]

theorem Mode.Sane.after {m : Mode} (hm : m.Sane) (c : Char) : (m.after c).Sane := by
  obtain ⟨quote, escaped⟩ := m
  rw [Mode.after]
  split
  · exact hm
  · split
    · exact hm
    · split
      · split
        · exact fun q hq => by cases hq
        · exact hm
      · split
        · rename_i hq
          rintro q ⟨⟩
          rw [Bool.or_eq_true, decide_eq_true_eq, decide_eq_true_eq] at hq
          rcases hq with rfl | rfl <;> decide
        · exact hm

theorem scan_squeeze {m : Mode} (hm : m.Sane) (glue follow : Bool) {text : List Char} (h : Clear m text) :
    scan m (markup.squeeze glue follow text) = scan m text := by
  induction text generalizing m glue with
  | nil => rfl
  | cons c r ih =>
    rw [Spacing.squeeze, blank_markup]
    split
    · rename_i hc
      have hescaped : m.escaped = false := by
        by_contra hx
        have hn := h.1 (by simpa using hx)
        rw [hc] at hn
        cases hn
      have hskip {d : Char} (hd : isBlank d = true) (rest : List Char) : scan m (d :: rest) = scan m rest := by
        obtain ⟨hcut, hafter⟩ := Mode.after_blank hm hescaped hd
        rw [scan, if_neg (by simp [hcut]), hafter]
      have hr : Clear m r := by
        have hclear := h.2
        rwa [(Mode.after_blank hm hescaped hc).2] at hclear
      rw [hskip hc]
      split
      · exact ih hm glue hr
      · have hspace : isBlank markup.space = true := by decide
        exact (hskip hspace _).trans (ih hm false hr)
    · rw [scan, scan, ih (hm.after c) _ h.2]

theorem Firm.contained_squeezed {text : List Char} (h : Firm text) : Contained (squeezed text) := by
  have hsane : Mode.bare.Sane := fun q hq => by cases hq
  rw [Contained, squeezed, scan_squeeze hsane true true h.clear]
  exact h.contained

theorem squeezed_keepsBlank : KeepsBlank squeezed where
  nil := rfl
  all run := by
    rw [Bool.eq_iff_iff, List.all_eq_true, List.all_eq_true]
    constructor
    · intro h c hc
      by_contra hn
      exact hn (h c (Spacing.mem_squeeze (by simpa using hn) hc true true))
    · intro h c hc
      have hnil : squeezed run = squeezed [] := by
        rw [squeezed, ← List.append_nil run]
        exact Spacing.squeeze_blanks (fun c hc => h c hc) true []
      rw [hnil] at hc
      cases hc

theorem apart_cons {x y c : Char} {a : List Char} :
    Apart x y (c :: a) ↔ (c = x → a.head? ≠ some y) ∧ Apart x y a := by
  cases a with
  | nil => exact ⟨fun _ => ⟨fun _ => nofun, .nil⟩, fun _ => .singleton c⟩
  | cons d a =>
    rw [Apart, List.isChain_cons_cons, Apart, List.head?_cons]
    simp

theorem apart_append {x y : Char} {a b : List Char} (ha : Apart x y a) (hb : Apart x y b)
    (h : b.head? ≠ some y ∨ a.getLast? ≠ some x) : Apart x y (a ++ b) := by
  refine List.isChain_append.2 ⟨ha, hb, ?_⟩
  rintro c hc d hd ⟨rfl, rfl⟩
  exact h.elim (fun h => h hd) fun h => h hc

theorem apart_of_not_mem {x y : Char} {a : List Char} (h : x ∉ a) : Apart x y a := by
  induction a with
  | nil => exact .nil
  | cons c a ih =>
    rw [List.mem_cons, not_or] at h
    cases a with
    | nil => exact .singleton _
    | cons d a => exact .cons_cons (fun he => h.1 he.1.symm) (ih h.2)

theorem apart_trim {x y : Char} (hx : isBlank x = false) (hy : isBlank y = false) {run : List Char}
    (h : Apart x y (trim run)) : Apart x y run := by
  obtain ⟨front, back, hf, hb, ht, _⟩ := trim_spec run
  have hne {z : Char} (hz : isBlank z = false) {blanks : List Char} (hbs : Blanks blanks) : z ∉ blanks := by
    intro hm
    rw [hbs z hm] at hz
    cases hz
  rw [ht]
  refine apart_append (apart_append (apart_of_not_mem (hne hx hf)) h (.inr fun hl => ?_))
    (apart_of_not_mem (hne hx hb)) (.inl fun hh => ?_)
  · exact hne hx hf (List.mem_of_getLast? hl)
  · exact hne hy hb (List.mem_of_head? hh)

theorem apart_ofCuts {es : List Cut} {tail : List Char} (h : ∀ e ∈ es, e.Sound) (ht : Blanks tail)
    (hc : ∀ e ∈ es, Apart '/' '*' (trim e.run)) : Apart '/' '*' (ofCuts es ++ tail) := by
  induction es with
  | nil =>
    apply apart_of_not_mem
    intro hm
    have hslash := ht '/' hm
    revert hslash
    decide
  | cons e es ih =>
    rw [List.forall_mem_cons] at h hc
    have hslash : e.mark ≠ '/' := fun hm => by
      have hd := h.1.mark
      rw [hm] at hd
      revert hd
      decide
    have hstar : e.mark ≠ '*' := fun hm => by
      have hd := h.1.mark
      rw [hm] at hd
      revert hd
      decide
    have hrest : Apart '/' '*' ([e.mark] ++ (ofCuts es ++ tail)) :=
      apart_append (.singleton _) (ih h.2 hc.2) (.inr fun hl => hslash (Option.some.inj hl))
    rw [ofCuts_cons, List.append_assoc, List.cons_append]
    exact apart_append (apart_trim (by decide) (by decide) hc.1) hrest (.inl fun hh => hstar (Option.some.inj hh))

theorem mem_merged {e : Cut} {es : List Cut} (h : e ∈ merged es) :
    ∃ f ∈ es, e.run = f.run ∧ (e.mark = f.mark ∨ e.mark = '\x7d') := by
  fun_induction merged es with
  | case1 d f es hm ih =>
    rcases List.mem_cons.1 h with rfl | h
    · exact ⟨d, List.mem_cons_self .., rfl, .inr rfl⟩
    · obtain ⟨f', hf', he⟩ := ih h
      exact ⟨f', List.mem_cons_of_mem _ (List.mem_cons_of_mem _ hf'), he⟩
  | case2 d f es hm ih =>
    rcases List.mem_cons.1 h with rfl | h
    · exact ⟨e, List.mem_cons_self .., rfl, .inl rfl⟩
    · obtain ⟨f', hf', he⟩ := ih h
      exact ⟨f', List.mem_cons_of_mem _ hf', he⟩
  | case3 => exact ⟨e, h, rfl, .inl rfl⟩

theorem sound_merged {es : List Cut} (h : ∀ e ∈ es, e.Sound) : ∀ e ∈ merged es, e.Sound := by
  intro e he
  obtain ⟨f, hf, hrun, hmark⟩ := mem_merged he
  refine ⟨hrun ▸ (h f hf).run, ?_⟩
  rcases hmark with hmark | hmark <;> rw [hmark]
  · exact (h f hf).mark
  · decide

theorem dropLastSemicolons_blanks {front : List Char} (h : Blanks front) (text : List Char) :
    dropLastSemicolons (front ++ text) = front ++ dropLastSemicolons text := by
  induction front with
  | nil => rfl
  | cons c front ih =>
    rw [Blanks, List.forall_mem_cons] at h
    rw [List.cons_append, dropLastSemicolons_cons, ih h.2, List.cons_append]
    rintro rfl
    have hsemicolon : isBlank ';' = true := h.1
    exact absurd hsemicolon (by decide)

theorem solid_ofCuts {es : List Cut} (h : ∀ e ∈ es, e.Sound)
    (hf : ∀ e ∈ es, ∀ c ∈ e.run.head?, isBlank c = false) : Solid (ofCuts es) := by
  refine ⟨?_, Renders.last_ofCuts h⟩
  cases es with
  | nil => exact nofun
  | cons e es =>
    rw [ofCuts_cons, List.head?_append]
    cases hr : e.run with
    | nil =>
      rintro _ ⟨⟩
      exact (h e (List.mem_cons_self ..)).mark_not_blank
    | cons c r =>
      rintro _ ⟨⟩
      exact hf e (List.mem_cons_self ..) c (by rw [hr]; rfl)

theorem minifyChars_of_renders {text : List Char} {cs : List Cut} (h : Renders text cs)
    (hs : ∀ c ∈ cs, c.Steady) : minifyChars text = ofCuts (merged (cs.map (Cut.map squeezed))) := by
  obtain ⟨es, tail, rfl, hes, htail, rfl⟩ := h
  let gs := es.map (Cut.map squeezed)
  have hgs : (es.map (Cut.map trim)).map (Cut.map squeezed) = gs := by
    rw [List.map_map]
    apply List.map_congr_left
    intro e _
    simp [Cut.map, squeezed_trim]
  have hsteady : ∀ e ∈ es, (e.map trim).Steady := List.forall_mem_map.1 hs
  have hsound : ∀ g ∈ gs, g.Sound := by
    refine List.forall_mem_map.2 fun e he => ⟨?_, (hes e he).mark⟩
    have hcontained := (hsteady e he).contained
    rwa [Cut.map, squeezed_trim] at hcontained
  have hunclosed : ∀ g ∈ gs, Apart ';' '\x7d' (g.run ++ [g.mark]) := by
    refine List.forall_mem_map.2 fun e he => ?_
    have hu := (hsteady e he).unclosed
    rwa [Cut.map, squeezed_trim] at hu
  have hcomments := dropComments_eq (apart_ofCuts hes htail fun e he => (hsteady e he).uncommented)
  obtain ⟨front, hfront, hsqueeze⟩ := squeeze_false false (ofCuts es ++ tail)
  rw [squeeze_ofCuts (fun e he => (hes e he).mark) htail] at hsqueeze
  have hsolid : Solid (ofCuts (merged gs)) := by
    refine solid_ofCuts (sound_merged hsound) fun e he => ?_
    obtain ⟨g, hg, hrun, _⟩ := mem_merged he
    obtain ⟨f, _, rfl⟩ := List.mem_map.1 hg
    rw [hrun]
    exact (solid_squeezed f.run).first
  rw [hgs, minifyChars, hcomments, tighten_collapse, hsqueeze, dropLastSemicolons_blanks hfront,
    dropLastSemicolons_ofCuts hsound hunclosed, trim_blanks_append hfront, hsolid.trim]

theorem read_minified {text : List Char} {cs : List Cut} (h : Renders text cs) (hs : ∀ c ∈ cs, c.Steady) :
    readTrimmed (minifyChars text) = (readTrimmed text).map (Found.map squeezed) := by
  have hsound : ∀ g ∈ cs.map (Cut.map squeezed), g.Sound := by
    obtain ⟨es, tail, _, hes, _, rfl⟩ := h
    refine List.forall_mem_map.2 fun c hc => ⟨(hs c hc).contained, ?_⟩
    obtain ⟨e, he, rfl⟩ := List.mem_map.1 hc
    exact (hes e he).mark
  have hcuts : cuts .bare (ofCuts (merged (cs.map (Cut.map squeezed)))) =
      (merged (cs.map (Cut.map squeezed)), []) := by
    have hall := cuts_ofCuts (sound_merged hsound) contained_nil
    rwa [List.append_nil] at hall
  have hfound : assemble [] [] (cs.map (Cut.map squeezed)) = (assemble [] [] cs).map (Found.map squeezed) := by
    have hall : assemble (squeezed []) ([].map (Frame.map squeezed)) (cs.map (Cut.map squeezed)) =
        (assemble [] [] cs).map (Found.map squeezed) := squeezed_keepsBlank.assemble [] cs
    exact hall
  have htrim : Found.map trim ∘ Found.map squeezed = Found.map squeezed := by
    funext f
    simp [Found.map, Function.comp_def, (solid_squeezed _).trim]
  rw [read_renders h, readTrimmed, read, minifyChars_of_renders h hs, hcuts, assemble_merged, hfound, List.map_map,
    htrim]

end UtilityCss.Stylesheet
