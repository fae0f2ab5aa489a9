import Mathlib.Data.List.Basic
import Mathlib.Tactic.Common
import UtilityCss.Proofs.Text.Trim

/-!
Reading a stylesheet by its block structure. Braces and semicolons cut the text, unless they are escaped or
stand inside quotes; the stretches between them are heads and declarations. A text whose stretches end as
they begin, outside quotes and escapes, is read back as it was put together.
-/

namespace UtilityCss.Stylesheet

open Text

/-- How the next character is read: inside which quotes, and whether it is escaped. -/
structure Mode where
  quote : Option Char
  escaped : Bool
  deriving DecidableEq

namespace Mode

def bare : Mode := ⟨none, false⟩

def after (m : Mode) (c : Char) : Mode :=
  if m.escaped then ⟨m.quote, false⟩
  else if c = '\\' then ⟨m.quote, true⟩
  else match m.quote with
    | some q => if c = q then bare else m
    | none => if c = '"' || c = '\'' then ⟨some c, false⟩ else m

end Mode

def delimiters : List Char := ['\x7b', '\x7d', ';']

def Mode.cutsAt (m : Mode) (c : Char) : Bool :=
  decide (m = bare) && delimiters.contains c

def scan (m : Mode) : List Char → Option Mode
  | [] => some m
  | c :: r => if m.cutsAt c then none else scan (m.after c) r

def Contained (text : List Char) : Prop :=
  scan .bare text = some .bare

instance (text : List Char) : Decidable (Contained text) :=
  inferInstanceAs (Decidable (_ = _))

def Clear (m : Mode) : List Char → Prop
  | [] => True
  | c :: r => (m.escaped = true → isBlank c = false) ∧ Clear (m.after c) r

instance decidableClear (m : Mode) : (text : List Char) → Decidable (Clear m text)
  | [] => isTrue trivial
  | c :: r =>
    have := decidableClear (m.after c) r
    inferInstanceAs (Decidable (_ ∧ _))

/-- A text that is read alike whatever blanks are between its words. -/
structure Firm (text : List Char) : Prop where
  contained : Contained text
  clear : Clear .bare text

structure Cut where
  run : List Char
  mark : Char
  deriving DecidableEq

def ofCuts (es : List Cut) : List Char :=
  es.flatMap fun e => e.run ++ [e.mark]

def lead (front : List Char) : List Cut × List Char → List Cut × List Char
  | (e :: es, tail) => (⟨front ++ e.run, e.mark⟩ :: es, tail)
  | ([], tail) => ([], front ++ tail)

def cuts (m : Mode) : List Char → List Cut × List Char
  | [] => ([], [])
  | c :: r =>
    if m.cutsAt c then (⟨[], c⟩ :: (cuts .bare r).1, (cuts .bare r).2)
    else lead [c] (cuts (m.after c) r)

structure Found where
  within : List (List Char)
  head : List Char
  declarations : List (List Char)
  deriving DecidableEq

structure Frame where
  head : List Char
  declarations : List (List Char)
  nests : Bool

def declared (run : List Char) (ds : List (List Char)) : List (List Char) :=
  if run.all isBlank then ds else ds ++ [run]

def Frame.close (f : Frame) (last : List Char) (outer : List Frame) : List Found :=
  if f.nests && (declared last f.declarations).isEmpty then []
  else [⟨(outer.map Frame.head).reverse, f.head, declared last f.declarations⟩]

def nesting : List Frame → List Frame
  | [] => []
  | f :: outer => { f with nests := true } :: outer

def declare (run : List Char) : List Frame → List Frame
  | [] => []
  | f :: outer => { f with declarations := declared run f.declarations } :: outer

def closeTop (last : List Char) : List Frame → List Found × List Frame
  | [] => ([], [])
  | f :: outer => (f.close last outer, outer)

def closeAll (tail : List Char) : List Frame → List Found
  | [] => []
  | f :: outer => f.close tail outer ++ closeAll [] outer

def assemble (tail : List Char) : List Frame → List Cut → List Found
  | around, [] => closeAll tail around
  | around, e :: es =>
    if e.mark = '\x7b' then assemble tail (⟨e.run, [], false⟩ :: nesting around) es
    else if e.mark = ';' then assemble tail (declare e.run around) es
    else (closeTop e.run around).1 ++ assemble tail (closeTop e.run around).2 es

def read (text : List Char) : List Found :=
  assemble (cuts .bare text).2 [] (cuts .bare text).1

structure Written where
  head : List Char
  declarations : List (List Char)
  last : List Char

structure Part where
  query : Option (List Char)
  blocks : List Written

namespace Written

def cuts (b : Written) : List Cut :=
  ⟨b.head, '\x7b'⟩ :: (b.declarations.map (⟨·, ';'⟩) ++ [⟨b.last, '\x7d'⟩])

def found (within : List (List Char)) (b : Written) : Found :=
  ⟨within, b.head, (b.declarations ++ [b.last]).filter fun d => !d.all isBlank⟩

end Written

namespace Part

def cuts (p : Part) : List Cut :=
  match p.query with
  | none => p.blocks.flatMap Written.cuts
  | some q => ⟨q, '\x7b'⟩ :: (p.blocks.flatMap Written.cuts ++ [⟨[], '\x7d'⟩])

def found (p : Part) : List Found :=
  p.blocks.map (Written.found p.query.toList)

end Part

namespace Cut

def map (f : List Char → List Char) (e : Cut) : Cut :=
  ⟨f e.run, e.mark⟩

structure Sound (e : Cut) : Prop where
  run : Contained e.run
  mark : e.mark ∈ delimiters

end Cut

def Found.map (f : List Char → List Char) (b : Found) : Found :=
  ⟨b.within.map f, f b.head, b.declarations.map f⟩

def Frame.map (f : List Char → List Char) (x : Frame) : Frame :=
  ⟨f x.head, x.declarations.map f, x.nests⟩

def readTrimmed (text : List Char) : List Found :=
  (read text).map (Found.map trim)

def Renders (text : List Char) (cs : List Cut) : Prop :=
  ∃ es tail, text = ofCuts es ++ tail ∧ (∀ e ∈ es, e.Sound) ∧ Blanks tail ∧
    es.map (Cut.map trim) = cs

theorem scan_append (m : Mode) (a b : List Char) :
    scan m (a ++ b) = (scan m a).bind fun m' => scan m' b := by
  induction a generalizing m with
  | nil => rfl
  | cons c a ih =>
    rw [List.cons_append, scan, scan]
    split
    · rfl
    · exact ih _

theorem clear_append {m m' : Mode} {a b : List Char} (hs : scan m a = some m') (ha : Clear m a) (hb : Clear m' b) :
    Clear m (a ++ b) := by
  induction a generalizing m with
  | nil =>
    cases hs
    exact hb
  | cons c a ih =>
    rw [scan] at hs
    split at hs
    · cases hs
    · exact ⟨ha.1, ih hs ha.2⟩

theorem Contained.append {a b : List Char} (ha : Contained a) (hb : Contained b) : Contained (a ++ b) := by
  rw [Contained, scan_append, ha]
  exact hb

theorem contained_nil : Contained [] := rfl

theorem Firm.append {a b : List Char} (ha : Firm a) (hb : Firm b) : Firm (a ++ b) :=
  ⟨ha.contained.append hb.contained, clear_append ha.contained ha.clear hb.clear⟩

theorem lead_lead (a b : List Char) (p : List Cut × List Char) : lead a (lead b p) = lead (a ++ b) p := by
  obtain ⟨es, tail⟩ := p
  cases es <;> simp [lead]

theorem cuts_of_scan {m m' : Mode} {a : List Char} (h : scan m a = some m') (b : List Char) :
    cuts m (a ++ b) = lead a (cuts m' b) := by
  induction a generalizing m with
  | nil =>
    cases h
    rw [List.nil_append]
    rcases cuts m' b with ⟨es, tail⟩
    cases es <;> rfl
  | cons c a ih =>
    rw [scan] at h
    split at h
    · cases h
    · rename_i hc
      rw [List.cons_append, cuts, if_neg hc, ih h, lead_lead]
      rfl

theorem cuts_contained {a : List Char} (h : Contained a) : cuts .bare a = ([], a) := by
  have hc := cuts_of_scan h []
  simpa [cuts, lead] using hc

theorem cuts_cut {run : List Char} (h : Contained run) {mark : Char} (hm : mark ∈ delimiters)
    (rest : List Char) :
    cuts .bare (run ++ mark :: rest) = (⟨run, mark⟩ :: (cuts .bare rest).1, (cuts .bare rest).2) := by
  have hcut : Mode.bare.cutsAt mark = true := by simpa [Mode.cutsAt] using hm
  rw [cuts_of_scan h, cuts, if_pos hcut]
  simp [lead]

theorem cuts_ofCuts {es : List Cut} {tail : List Char}
    (h : ∀ e ∈ es, e.Sound) (ht : Contained tail) : cuts .bare (ofCuts es ++ tail) = (es, tail) := by
  induction es with
  | nil => exact cuts_contained ht
  | cons e es ih =>
    have he := h e (List.mem_cons_self ..)
    have hes := ih fun e' hm => h e' (List.mem_cons_of_mem e hm)
    have htext : ofCuts (e :: es) ++ tail = e.run ++ e.mark :: (ofCuts es ++ tail) := by simp [ofCuts]
    rw [htext, cuts_cut he.run he.mark, hes]

def marks : List Char :=
  delimiters ++ ['\\', '"', '\'']

def Inert (text : List Char) : Prop :=
  ∀ c ∈ text, c ∉ marks

instance (text : List Char) : Decidable (Inert text) :=
  inferInstanceAs (Decidable (∀ c ∈ text, c ∉ marks))

theorem Inert.firm {text : List Char} (h : Inert text) : Firm text := by
  induction text with
  | nil => exact ⟨rfl, trivial⟩
  | cons c r ih =>
    have hc : c ∉ marks := h c (List.mem_cons_self ..)
    simp only [marks, delimiters, List.cons_append, List.nil_append, List.mem_cons, List.not_mem_nil,
      not_or] at hc
    have hcut : Mode.bare.cutsAt c = false := by simp [Mode.cutsAt, delimiters, hc]
    have hafter : Mode.bare.after c = .bare := by simp [Mode.after, Mode.bare, hc]
    have hr := ih fun d hd => h d (List.mem_cons_of_mem c hd)
    constructor
    · rw [Contained, scan, hcut, hafter]
      exact hr.contained
    · rw [Clear, hafter]
      exact ⟨fun he => absurd he Bool.false_ne_true, hr.clear⟩

theorem Inert.contained {text : List Char} (h : Inert text) : Contained text :=
  h.firm.contained

theorem not_mem_of_class {p : Char → Bool} {cs : List Char} (h : ∀ d ∈ cs, p d = false) {c : Char}
    (hc : p c = true) : c ∉ cs := by
  intro hm
  rw [h c hm] at hc
  cases hc

theorem inert_of_blanks {text : List Char} (h : Blanks text) : Inert text := by
  have hmarks : ∀ d ∈ marks, isBlank d = false := by decide
  exact fun c hc => not_mem_of_class hmarks (h c hc)

variable {tail : List Char}

theorem assemble_open (around : List Frame) (run : List Char) (es : List Cut) :
    assemble tail around (⟨run, '\x7b'⟩ :: es) = assemble tail (⟨run, [], false⟩ :: nesting around) es := by
  rw [assemble, if_pos rfl]

theorem assemble_declare (around : List Frame) (run : List Char) (es : List Cut) :
    assemble tail around (⟨run, ';'⟩ :: es) = assemble tail (declare run around) es := by
  have hopen : ¬ ';' = '\x7b' := by decide
  rw [assemble, if_neg hopen, if_pos rfl]

theorem assemble_close (f : Frame) (outer : List Frame) (run : List Char) (es : List Cut) :
    assemble tail (f :: outer) (⟨run, '\x7d'⟩ :: es) = f.close run outer ++ assemble tail outer es := by
  have hopen : ¬ '\x7d' = '\x7b' := by decide
  have hdeclare : ¬ '\x7d' = ';' := by decide
  rw [assemble, if_neg hopen, if_neg hdeclare, closeTop]

theorem assemble_declarations (f : Frame) (outer : List Frame) (ds : List (List Char)) (es : List Cut) :
    assemble tail (f :: outer) (ds.map (⟨·, ';'⟩) ++ es) =
      assemble tail ({ f with declarations := f.declarations ++ ds.filter fun d => !d.all isBlank } :: outer)
        es := by
  induction ds generalizing f with
  | nil => simp
  | cons d ds ih =>
    rw [List.map_cons, List.cons_append, assemble_declare, declare, ih]
    by_cases hd : d.all isBlank = true <;> simp [declared, hd]

theorem assemble_written (around : List Frame) (b : Written) (es : List Cut) :
    assemble tail around (b.cuts ++ es) =
      b.found (around.map Frame.head).reverse :: assemble tail (nesting around) es := by
  have hheads : (nesting around).map Frame.head = around.map Frame.head := by cases around <;> rfl
  rw [Written.cuts, List.cons_append, assemble_open, List.append_assoc, assemble_declarations,
    List.singleton_append, assemble_close, Frame.close, hheads]
  by_cases hl : b.last.all isBlank = true <;> simp [declared, hl, Written.found]

theorem assemble_blocks {around : List Frame} (h : nesting around = around) (bs : List Written)
    (es : List Cut) : assemble tail around (bs.flatMap Written.cuts ++ es) =
      bs.map (Written.found (around.map Frame.head).reverse) ++ assemble tail around es := by
  induction bs with
  | nil => rfl
  | cons b bs ih => rw [List.flatMap_cons, List.append_assoc, assemble_written, h, ih]; rfl

theorem assemble_part {p : Part} (h : p.query.isSome → p.blocks ≠ []) (es : List Cut) :
    assemble tail [] (p.cuts ++ es) = p.found ++ assemble tail [] es := by
  obtain ⟨query, blocks⟩ := p
  cases query with
  | none => exact assemble_blocks rfl blocks es
  | some q =>
    obtain ⟨b, bs, rfl⟩ := List.exists_cons_of_ne_nil (h rfl)
    rw [Part.cuts]
    dsimp only
    rw [List.cons_append, assemble_open, List.append_assoc, List.flatMap_cons, List.append_assoc,
      assemble_written, nesting, assemble_blocks rfl, List.singleton_append]
    simp only [nesting]
    rw [assemble_close, Frame.close]
    simp [declared, Part.found]

theorem assemble_parts {parts : List Part} (h : ∀ p ∈ parts, p.query.isSome → p.blocks ≠ []) :
    assemble tail [] (parts.flatMap Part.cuts) = parts.flatMap Part.found := by
  induction parts with
  | nil => rfl
  | cons p parts ih =>
    rw [List.flatMap_cons, List.flatMap_cons, assemble_part (h p (List.mem_cons_self ..)),
      ih fun q hq => h q (List.mem_cons_of_mem p hq)]

structure KeepsBlank (f : List Char → List Char) : Prop where
  nil : f [] = []
  all : ∀ run, (f run).all isBlank = run.all isBlank

variable {f : List Char → List Char}

theorem KeepsBlank.declared (h : KeepsBlank f) (run : List Char) (ds : List (List Char)) :
    declared (f run) (ds.map f) = (Stylesheet.declared run ds).map f := by
  rw [Stylesheet.declared, Stylesheet.declared, h.all]
  split <;> simp

theorem KeepsBlank.close (h : KeepsBlank f) (x : Frame) (last : List Char) (outer : List Frame) :
    (x.map f).close (f last) (outer.map (Frame.map f)) = (x.close last outer).map (Found.map f) := by
  have hd : Stylesheet.declared (f last) (x.map f).declarations =
      (Stylesheet.declared last x.declarations).map f := h.declared last x.declarations
  have hn : (x.map f).nests = x.nests := rfl
  rw [Frame.close, Frame.close, hd, hn, List.isEmpty_map]
  split
  · rfl
  · simp [Found.map, Frame.map, Function.comp_def]

theorem KeepsBlank.closeAll (h : KeepsBlank f) (last : List Char) (around : List Frame) :
    closeAll (f last) (around.map (Frame.map f)) = (closeAll last around).map (Found.map f) := by
  induction around generalizing last with
  | nil => rfl
  | cons x outer ih =>
    have hi := ih []
    rw [h.nil] at hi
    rw [List.map_cons, Stylesheet.closeAll, Stylesheet.closeAll, h.close, hi, List.map_append]

theorem KeepsBlank.assemble (h : KeepsBlank f) (around : List Frame) (es : List Cut) :
    assemble (f tail) (around.map (Frame.map f)) (es.map (Cut.map f)) =
      (assemble tail around es).map (Found.map f) := by
  induction es generalizing around with
  | nil => exact h.closeAll tail around
  | cons e es ih =>
    have hm : (e.map f).mark = e.mark := rfl
    rw [List.map_cons, Stylesheet.assemble, Stylesheet.assemble, hm]
    split
    · have hn : nesting (around.map (Frame.map f)) = (nesting around).map (Frame.map f) := by
        cases around <;> rfl
      rw [hn, ← ih]
      rfl
    · split
      · have hd : declare (f e.run) (around.map (Frame.map f)) = (declare e.run around).map (Frame.map f) := by
          cases around with
          | nil => rfl
          | cons x outer => simp [declare, Frame.map, h.declared]
        rw [← ih, ← hd]
        rfl
      · cases around with
        | nil => exact ih []
        | cons x outer =>
          rw [closeTop, List.map_append, ← ih, ← h.close]
          rfl

theorem trim_keepsBlank : KeepsBlank trim :=
  ⟨rfl, all_isBlank_trim⟩

theorem Cut.Sound.mark_not_blank {e : Cut} (h : e.Sound) : isBlank e.mark = false := by
  have hb : ∀ d ∈ delimiters, isBlank d = false := by decide
  exact hb e.mark h.mark

theorem read_renders {text : List Char} {cs : List Cut} (h : Renders text cs) :
    readTrimmed text = assemble [] [] cs := by
  obtain ⟨es, tail, rfl, hes, htail, rfl⟩ := h
  rw [readTrimmed, read, cuts_ofCuts hes (inert_of_blanks htail).contained]
  have htrim : assemble (trim tail) [] (es.map (Cut.map trim)) = (assemble tail [] es).map (Found.map trim) :=
    trim_keepsBlank.assemble [] es
  rw [htail.trim_eq_nil] at htrim
  exact htrim.symm

theorem read_parts {text : List Char} {parts : List Part} (h : Renders text (parts.flatMap Part.cuts))
    (hp : ∀ p ∈ parts, p.query.isSome → p.blocks ≠ []) : readTrimmed text = parts.flatMap Part.found := by
  rw [read_renders h, assemble_parts hp]

namespace Renders

variable {a b : List Char} {cs ds : List Cut}

theorem blanks (h : Blanks a) : Renders a [] :=
  ⟨[], a, rfl, nofun, h, rfl⟩

theorem cut {mark : Char} (h : Contained a) (hm : mark ∈ delimiters) : Renders (a ++ [mark]) [⟨trim a, mark⟩] := by
  refine ⟨[⟨a, mark⟩], [], by simp [ofCuts], ?_, nofun, rfl⟩
  simpa using (⟨h, hm⟩ : Cut.Sound ⟨a, mark⟩)

theorem of_cuts (h : a = ofCuts (Stylesheet.cuts .bare a).1 ++ (Stylesheet.cuts .bare a).2 ∧
    (∀ e ∈ (Stylesheet.cuts .bare a).1, Contained e.run ∧ e.mark ∈ delimiters) ∧
    Blanks (Stylesheet.cuts .bare a).2 ∧ (Stylesheet.cuts .bare a).1.map (Cut.map trim) = cs) : Renders a cs :=
  ⟨_, _, h.1, fun e he => ⟨(h.2.1 e he).1, (h.2.1 e he).2⟩, h.2.2.1, h.2.2.2⟩

theorem append (ha : Renders a cs) (hb : Renders b ds) : Renders (a ++ b) (cs ++ ds) := by
  obtain ⟨es, tail, rfl, hes, htail, rfl⟩ := ha
  obtain ⟨fs, tail', rfl, hfs, htail', rfl⟩ := hb
  have hblank : Contained tail := (inert_of_blanks htail).contained
  cases fs with
  | nil =>
    exact ⟨es, tail ++ tail', by simp [ofCuts], hes, htail.append htail', by simp⟩
  | cons f fs =>
    rw [List.forall_mem_cons] at hfs
    refine ⟨es ++ ⟨tail ++ f.run, f.mark⟩ :: fs, tail', by simp [ofCuts], ?_, htail', ?_⟩
    · rw [List.forall_mem_append, List.forall_mem_cons]
      exact ⟨hes, ⟨hblank.append hfs.1.run, hfs.1.mark⟩, hfs.2⟩
    · simp [Cut.map, trim_blanks_append htail]

theorem last_ofCuts {es : List Cut} (h : ∀ e ∈ es, e.Sound) :
    ∀ c ∈ (ofCuts es).getLast?, isBlank c = false := by
  rcases es.eq_nil_or_concat' with rfl | ⟨front, e, rfl⟩
  · exact nofun
  · have hlast : (ofCuts (front ++ [e])).getLast? = some e.mark := by
      rw [ofCuts, List.flatMap_append, List.flatMap_singleton, ← List.append_assoc, List.getLast?_concat]
    rw [hlast]
    rintro _ ⟨⟩
    exact (h e (by simp)).mark_not_blank

theorem trimmed (h : Renders a cs) : Renders (trim a) cs := by
  obtain ⟨es, tail, rfl, hes, htail, rfl⟩ := h
  rw [trim_append_blanks (ofCuts es) htail]
  cases es with
  | nil => exact ⟨[], [], rfl, nofun, nofun, rfl⟩
  | cons e es =>
    let front := e.run.takeWhile isBlank
    let e' : Cut := ⟨e.run.dropWhile isBlank, e.mark⟩
    have hfront : Blanks front := fun c hc => List.mem_takeWhile_imp hc
    have hrun : e.run = front ++ e'.run := List.takeWhile_append_dropWhile.symm
    have htext : ofCuts (e :: es) = front ++ ofCuts (e' :: es) := by
      simp only [ofCuts, List.flatMap_cons, ← List.append_assoc, ← hrun]
      rfl
    rw [List.forall_mem_cons] at hes
    have hsound : e'.Sound := by
      refine ⟨?_, hes.1.mark⟩
      have hscan : scan .bare (front ++ e'.run) = some .bare := hrun ▸ hes.1.run
      rw [scan_append, (inert_of_blanks hfront).contained] at hscan
      exact hscan
    have hall := List.forall_mem_cons.2 ⟨hsound, hes.2⟩
    have hsolid : Solid (ofCuts (e' :: es)) := by
      refine ⟨?_, last_ofCuts hall⟩
      have hrun' := first_dropWhile e.run
      change ∀ c ∈ e'.run.head?, isBlank c = false at hrun'
      cases he : e'.run with
      | nil =>
        rw [ofCuts, List.flatMap_cons, he]
        rintro _ ⟨⟩
        exact hsound.mark_not_blank
      | cons c r =>
        rw [he] at hrun'
        rw [ofCuts, List.flatMap_cons, he]
        exact hrun'
    refine ⟨e' :: es, [], ?_, hall, nofun, ?_⟩
    · rw [htext, trim_blanks_append hfront, hsolid.trim, List.append_nil]
    · have htrim : trim e.run = trim e'.run := by rw [hrun, trim_blanks_append hfront]
      simp only [List.map_cons, Cut.map, htrim]
      rfl

end Renders

end UtilityCss.Stylesheet
