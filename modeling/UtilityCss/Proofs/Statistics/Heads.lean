import UtilityCss.Proofs.Stylesheet.Meaning
import UtilityCss.Stylesheet.Statistics

namespace UtilityCss.Stylesheet.Statistics

open Text

structure Quiet (text : List Char) : Prop where
  unopened : '\x7b' ∉ text
  unclosed : '\x7d' ∉ text
  uncommented : Apart '/' '*' text

instance (text : List Char) : Decidable (Quiet text) :=
  decidable_of_iff ('\x7b' ∉ text ∧ '\x7d' ∉ text ∧ Apart '/' '*' text)
    ⟨fun h => ⟨h.1, h.2.1, h.2.2⟩, fun h => ⟨h.unopened, h.unclosed, h.uncommented⟩⟩

variable {a b text head body run : List Char} {hs ks : List (List Char)}

theorem Quiet.append (ha : Quiet a) (hb : Quiet b) (h : b.head? ≠ some '*' ∨ a.getLast? ≠ some '/') :
    Quiet (a ++ b) where
  unopened hm := (List.mem_append.1 hm).elim ha.unopened hb.unopened
  unclosed hm := (List.mem_append.1 hm).elim ha.unclosed hb.unclosed
  uncommented := apart_append ha.uncommented hb.uncommented h

theorem Quiet.of_calm (h : Calm text) : Quiet text :=
  ⟨fun hm => h.inert _ hm (by decide), fun hm => h.inert _ hm (by decide), h.uncommented⟩

theorem calm_of_blanks (h : Blanks a) : Calm a :=
  Calm.of_class (by decide) h

theorem Quiet.deeper (h : Deeper a b) (ha : Quiet a) : Quiet b where
  unopened hm := (h.subset _ hm).elim ha.unopened (by decide)
  unclosed hm := (h.subset _ hm).elim ha.unclosed (by decide)
  uncommented := h.apart (by decide) (by decide) ha.uncommented

theorem quiet_unlines {rows : List String} (h : ∀ row ∈ rows, Quiet row.toList) : Quiet (unlines rows).toList := by
  induction rows with
  | nil => exact Quiet.of_calm calm_nil
  | cons row rows ih =>
    rw [List.forall_mem_cons] at h
    cases rows with
    | nil => simpa [unlines] using h.1
    | cons next rows =>
      have hrest : Quiet (['\n'] ++ (unlines (next :: rows)).toList) :=
        (by decide : Quiet ['\n']).append (ih h.2) (.inr (by decide))
      rw [toList_unlines_cons]
      exact h.1.append hrest (.inl (by simp))

structure Opens (text : List Char) (hs : List (List Char)) : Prop where
  heads : ∀ run, Blanks run → ∃ run', Blanks run' ∧ ∀ rest,
    (heads.go run (text ++ rest)).map trim = hs ++ (heads.go run' rest).map trim
  uncommented : Apart '/' '*' text

theorem go_unbraced (hopen : '\x7b' ∉ a) (hclose : '\x7d' ∉ a) (run rest : List Char) :
    heads.go run (a ++ rest) = heads.go (a.reverse ++ run) rest := by
  induction a generalizing run with
  | nil => rfl
  | cons c a ih =>
    rw [List.mem_cons, not_or] at hopen hclose
    rw [List.cons_append, heads.go, if_neg (Ne.symm hopen.1), if_neg (Ne.symm hclose.1), ih hopen.2 hclose.2,
      List.reverse_cons, List.append_assoc, List.singleton_append]

theorem go_close (run rest : List Char) : heads.go run ('\x7d' :: rest) = heads.go [] rest := by
  rw [heads.go, if_neg (by decide), if_pos rfl]

theorem go_open (hr : Blanks run) (hh : Quiet head) (rest : List Char) :
    (heads.go run (head ++ ' ' :: '\x7b' :: rest)).map trim = trim head :: (heads.go [] rest).map trim := by
  have hblank : Blanks [' '] := by decide
  have hreverse : Blanks run.reverse := fun c hc => hr c (List.mem_reverse.1 hc)
  have hnotempty : (' ' :: (head.reverse ++ run)).isEmpty = false := rfl
  rw [go_unbraced hh.unopened hh.unclosed, heads.go, if_neg (by decide), if_neg (by decide), heads.go, if_pos rfl,
    hnotempty, if_neg Bool.false_ne_true, List.singleton_append, List.map_cons, List.reverse_cons,
    trim_append_blanks _ hblank, List.reverse_append, List.reverse_reverse, trim_blanks_append hreverse]

namespace Opens

theorem blanks (h : Blanks a) : Opens a [] := by
  have hquiet : Quiet a := .of_calm (calm_of_blanks h)
  refine ⟨fun run hr => ⟨a.reverse ++ run, ?_, fun rest => ?_⟩, hquiet.uncommented⟩
  · exact Blanks.append (fun c hc => h c (List.mem_reverse.1 hc)) hr
  · rw [go_unbraced hquiet.unopened hquiet.unclosed, List.nil_append]

theorem append (ha : Opens a hs) (hb : Opens b ks) (h : b.head? ≠ some '*' ∨ a.getLast? ≠ some '/') :
    Opens (a ++ b) (hs ++ ks) := by
  refine ⟨fun run hr => ?_, apart_append ha.uncommented hb.uncommented h⟩
  obtain ⟨run', hr', ha⟩ := ha.heads run hr
  obtain ⟨run'', hr'', hb⟩ := hb.heads run' hr'
  refine ⟨run'', hr'', fun rest => ?_⟩
  rw [List.append_assoc, ha, hb, List.append_assoc]

theorem joined {α : Type} {mark : String} (hm : Blanks mark.toList) (hne : mark.toList ≠ []) {xs : List α}
    {f : α → String} {g : α → List (List Char)} (h : ∀ x ∈ xs, Opens (f x).toList (g x)) :
    Opens (mark.intercalate (xs.map f)).toList (xs.flatMap g) := by
  have hends : mark.toList.head? ≠ some '*' ∧ mark.toList.getLast? ≠ some '/' :=
    ⟨hm.head?_ne (by decide), hm.getLast?_ne (by decide)⟩
  induction xs with
  | nil => exact Opens.blanks nofun
  | cons x xs ih =>
    rw [List.forall_mem_cons] at h
    cases xs with
    | nil => simpa using h.1
    | cons y ys =>
      have hrest := (Opens.blanks hm).append (ih h.2) (.inr hends.2)
      have hhead : (mark.toList ++ (mark.intercalate ((y :: ys).map f)).toList).head? ≠ some '*' := by
        rw [List.head?_append_of_ne_nil _ hne]
        exact hends.1
      rw [List.map_cons, String.intercalate_cons_of_ne_nil (by simp), String.toList_append, String.toList_append,
        List.append_assoc, List.flatMap_cons]
      exact h.1.append hrest (.inl hhead)

theorem braces (hh : Quiet head) (hb : ∀ rest, (heads.go [] (body ++ '\x7d' :: rest)).map trim =
    hs ++ (heads.go [] rest).map trim) (hc : Apart '/' '*' body) :
    Opens (head ++ ' ' :: '\x7b' :: (body ++ ['\x7d'])) (trim head :: hs) := by
  refine ⟨fun run hr => ⟨[], nofun, fun rest => ?_⟩, ?_⟩
  · rw [List.append_assoc, List.cons_append, List.cons_append, List.append_assoc, go_open hr hh,
      List.singleton_append, hb, List.cons_append]
  · have hbody : Apart '/' '*' (body ++ ['\x7d']) := apart_append hc (.singleton _) (.inl (by decide))
    have hbraces : Apart '/' '*' ([' ', '\x7b'] ++ (body ++ ['\x7d'])) :=
      apart_append (by decide) hbody (.inr (by decide))
    exact apart_append hh.uncommented hbraces (.inl (by simp))

theorem braces_of_quiet (hh : Quiet head) (hb : Quiet body) :
    Opens (head ++ ' ' :: '\x7b' :: (body ++ ['\x7d'])) [trim head] := by
  refine braces hh (fun rest => ?_) hb.uncommented
  rw [go_unbraced hb.unopened hb.unclosed, go_close, List.nil_append]

theorem braces_of_opens (hh : Quiet head) (hb : Opens body hs) :
    Opens (head ++ ' ' :: '\x7b' :: (body ++ ['\x7d'])) (trim head :: hs) := by
  refine braces hh (fun rest => ?_) hb.uncommented
  obtain ⟨run, _, hb⟩ := hb.heads [] nofun
  rw [hb, go_close]

theorem heads_eq (h : Opens text hs) : (Statistics.heads (dropComments text)).map trim = hs := by
  obtain ⟨run, _, ht⟩ := h.heads [] nofun
  rw [dropComments_eq h.uncommented, Statistics.heads, ← List.append_nil text, ht, heads.go, List.map_nil,
    List.append_nil]

end Opens

structure Telling (b : Block) : Prop where
  selector : Quiet b.selector.toList
  row : '\n' ∉ b.selector.toList
  lines : ∀ line ∈ b.lines, Quiet line.toList

theorem Telling.exists_body {b : Block} (h : Telling b) :
    ∃ body, Quiet body ∧ b.text.toList = b.selector.toList ++ ' ' :: '\x7b' :: (body ++ ['\x7d']) := by
  have hrows : Quiet (unlines (b.lines.map (indent ++ ·))).toList := by
    apply quiet_unlines
    rw [List.forall_mem_map]
    intro line hl
    rw [String.toList_append]
    exact (by decide : Quiet indent.toList).append (h.lines line hl) (.inr (by decide))
  have hnewline : Quiet ['\n'] := by decide
  refine ⟨['\n'] ++ (unlines (b.lines.map (indent ++ ·))).toList ++ ['\n'], ?_, ?_⟩
  · exact (hnewline.append hrows (.inr (by decide))).append hnewline (.inl (by decide))
  · simp [Block.text, Stylesheet.braces]

theorem Telling.opens {b : Block} (h : Telling b) : Opens b.text.toList [trim b.selector.toList] := by
  obtain ⟨body, hbody, ht⟩ := h.exists_body
  rw [ht]
  exact Opens.braces_of_quiet h.selector hbody

theorem Telling.opens_indented {b : Block} (h : Telling b) :
    Opens (indented b.text).toList [trim b.selector.toList] := by
  obtain ⟨gap, t, hgap, htext, hdeeper⟩ := exists_deeper_indented b.text
  obtain ⟨body, hbody, ht⟩ := h.exists_body
  have hshape : b.text.toList = b.selector.toList ++ ([' ', '\x7b'] ++ (body ++ ['\x7d'])) := ht
  rw [hshape] at hdeeper
  obtain ⟨head, t', rfl, hhead, ht'⟩ := hdeeper.append_inv
  obtain ⟨opening, t'', rfl, hopening, ht''⟩ := ht'.append_inv
  obtain ⟨body', rfl, hbody'⟩ := ht''.concat (by decide)
  obtain rfl := hhead.eq_of_row h.row
  obtain rfl := hopening.eq_of_row (by decide)
  have hopens := Opens.braces_of_quiet h.selector (hbody.deeper hbody')
  have hends : gap.getLast? ≠ some '/' := hgap.getLast?_ne (by decide)
  rw [htext]
  exact (Opens.blanks hgap).append hopens (.inr hends)

theorem opens_base {blocks : List Block} (h : ∀ b ∈ blocks, Telling b) :
    Opens (Section.base blocks).text.toList (blocks.map fun b => trim b.selector.toList) := by
  rw [List.map_eq_flatMap]
  exact Opens.joined (by decide) (by decide) fun b hb => (h b hb).opens

theorem opens_media {query : String} (hq : Quiet ("@media " ++ query).toList) {blocks : List Block}
    (h : ∀ b ∈ blocks, Telling b) : Opens (Section.media query blocks).text.toList
      (trim ("@media " ++ query).toList :: blocks.map fun b => trim b.selector.toList) := by
  have hblocks : Opens (unlines (blocks.map (indented ·.text))).toList
      (blocks.flatMap fun b => [trim b.selector.toList]) :=
    Opens.joined (by decide) (by decide) fun b hb => (h b hb).opens_indented
  have hnewline : Opens ['\n'] [] := Opens.blanks (by decide)
  have hbody := (hnewline.append hblocks (.inr (by decide))).append hnewline (.inl (by decide))
  have htext : (Section.media query blocks).text.toList = ("@media " ++ query).toList ++ ' ' :: '\x7b' ::
      (['\n'] ++ (unlines (blocks.map (indented ·.text))).toList ++ ['\n'] ++ ['\x7d']) := by
    simp [Section.text, Stylesheet.braces]
  rw [List.nil_append, List.append_nil, ← List.map_eq_flatMap] at hbody
  rw [htext]
  exact Opens.braces_of_opens hq hbody

theorem opens_root {properties : List (String × String)}
    (h : ∀ line ∈ Rule.linesOf properties, Quiet line.toList) :
    Opens (rootText properties).toList [":root".toList] := by
  have htell : Telling ⟨":root", Rule.linesOf properties⟩ :=
    ⟨show Quiet ":root".toList by decide, show '\n' ∉ ":root".toList by decide, h⟩
  have hroot : trim ":root".toList = ":root".toList := by decide
  rw [rootText]
  split
  · exact Opens.braces_of_quiet (show Quiet ":root".toList by decide) (show Quiet ['\n'] by decide)
  · exact hroot ▸ htell.opens

end UtilityCss.Stylesheet.Statistics
