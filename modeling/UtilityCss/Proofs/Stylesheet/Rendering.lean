import UtilityCss.Proofs.Stylesheet.Reading
import UtilityCss.Proofs.Stylesheet.Rows

namespace UtilityCss.Stylesheet

open Text

inductive Cutting : List String → List Cut → Prop
  | nil : Cutting [] []
  | cons {row : String} {rows : List String} {cs ds : List Cut} (h : Renders row.toList cs)
      (t : Cutting rows ds) : Cutting (row :: rows) (cs ++ ds)

namespace Cutting

variable {xs ys : List String} {cs ds : List Cut}

theorem single {row : String} (h : Renders row.toList cs) : Cutting [row] cs := by
  have hc := cons h nil
  rwa [List.append_nil] at hc

theorem append (hx : Cutting xs cs) (hy : Cutting ys ds) : Cutting (xs ++ ys) (cs ++ ds) := by
  induction hx with
  | nil => exact hy
  | cons h t ih =>
    rw [List.append_assoc]
    exact cons h ih

theorem flatMap {α : Type} {as : List α} {f : α → List String} {g : α → List Cut}
    (h : ∀ a ∈ as, Cutting (f a) (g a)) : Cutting (as.flatMap f) (as.flatMap g) := by
  induction as with
  | nil => exact nil
  | cons a as ih =>
    rw [List.flatMap_cons, List.flatMap_cons]
    exact (h a (List.mem_cons_self ..)).append (ih fun b hb => h b (List.mem_cons_of_mem a hb))

theorem map {α : Type} {as : List α} {f : α → String} {g : α → List Cut}
    (h : ∀ a ∈ as, Renders (f a).toList (g a)) : Cutting (as.map f) (as.flatMap g) := by
  have hf := flatMap (f := fun a => [f a]) fun a ha => single (h a ha)
  rwa [← List.map_eq_flatMap] at hf

theorem padded (h : Cutting xs cs) : Cutting (xs.map padded) cs := by
  induction h with
  | nil => exact nil
  | @cons row rows cs ds h t ih =>
    refine cons ?_ ih
    rw [Stylesheet.padded]
    split
    · exact h
    · have hindent : Blanks indent.toList := by decide
      rw [String.toList_append]
      exact (Renders.blanks hindent).append h

theorem joined {mark : String} (hm : Blanks mark.toList) (h : Cutting xs cs) :
    Renders (mark.intercalate xs).toList cs := by
  induction h with
  | nil => exact Renders.blanks nofun
  | @cons row rows cs ds h t ih =>
    cases t with
    | nil => simpa using h
    | @cons next rows cs' ds' h' t' =>
      rw [String.intercalate_cons_cons, String.toList_append,
        String.toList_append]
      have hmark := (h.append (Renders.blanks hm)).append ih
      rwa [List.append_nil] at hmark

theorem concat (h : Cutting xs cs) : Renders (String.join xs).toList cs := by
  rw [String.toList_join]
  induction h with
  | nil => exact Renders.blanks nofun
  | cons h t ih => exact h.append ih

theorem unlined (h : Cutting xs cs) : Renders (unlines xs).toList cs :=
  h.joined (by decide)

end Cutting

def declarationOf (line : String) : List Char :=
  line.toList.dropLast

structure ReadableLine (line : String) : Prop where
  last : line.toList.getLast? = some ';'
  contained : Contained (declarationOf line)
  solid : (declarationOf line).all isBlank = false

structure Block.Readable (b : Block) : Prop where
  selector : Contained b.selector.toList
  lines : ∀ line ∈ b.lines, ReadableLine line

def Block.written (b : Block) : Written :=
  ⟨trim b.selector.toList, b.lines.map fun line => trim (declarationOf line), []⟩

def Block.found (within : List (List Char)) (b : Block) : Found :=
  ⟨within, b.selector.toList, b.lines.map declarationOf⟩

theorem Block.Readable.found_written {b : Block} (h : b.Readable) (within : List (List Char)) :
    b.written.found (within.map trim) = (b.found within).map trim := by
  have hlines : (b.lines.map (fun line => trim (declarationOf line)) ++ [[]]).filter
      (fun d => !d.all isBlank) = b.lines.map fun line => trim (declarationOf line) := by
    rw [List.filter_append, List.filter_eq_self.2]
    · simp
    · intro d hd
      obtain ⟨line, hl, rfl⟩ := List.mem_map.1 hd
      rw [all_isBlank_trim, (h.lines line hl).solid]
      rfl
  rw [Written.found, written, hlines]
  simp [found, Found.map, Function.comp_def]

theorem renders_line {line : String} (h : ReadableLine line) :
    Renders line.toList [⟨trim (declarationOf line), ';'⟩] := by
  have hline : line.toList = declarationOf line ++ [';'] := (List.dropLast_append_getLast? _ h.last).symm
  rw [hline]
  exact Renders.cut h.contained (by decide)

theorem cutting_lines {lines : List String} (h : ∀ line ∈ lines, ReadableLine line) {start : String}
    (hs : Blanks start.toList) :
    Cutting (lines.map (start ++ ·)) (lines.map fun line => ⟨trim (declarationOf line), ';'⟩) := by
  have hsplit : lines.map (fun line => (⟨trim (declarationOf line), ';'⟩ : Cut)) =
      lines.flatMap fun line => [⟨trim (declarationOf line), ';'⟩] := List.map_eq_flatMap
  rw [hsplit]
  apply Cutting.map
  intro line hl
  rw [String.toList_append]
  exact (Renders.blanks hs).append (renders_line (h line hl))

theorem renders_open {head : String} (h : Contained head.toList) :
    Renders (head ++ " \x7b").toList [⟨trim head.toList, '\x7b'⟩] := by
  have hblank : Blanks [' '] := by decide
  have hc : Renders (head.toList ++ [' '] ++ ['\x7b']) [⟨trim (head.toList ++ [' ']), '\x7b'⟩] :=
    Renders.cut (h.append (inert_of_blanks hblank).contained) (by decide)
  rw [trim_append_blanks head.toList hblank] at hc
  have htext : (head ++ " \x7b").toList = head.toList ++ [' '] ++ ['\x7b'] := by simp
  rwa [htext]

theorem renders_close : Renders "\x7d".toList [⟨[], '\x7d'⟩] :=
  Renders.cut contained_nil (by decide)

theorem cutting_rows {b : Block} (h : b.Readable) (hrow : '\n' ∉ b.selector.toList) :
    Cutting b.rows b.written.cuts := by
  have hhead : '\n' ∉ (b.selector ++ " \x7b").toList := by simpa using hrow
  have hbody : Cutting b.body (b.lines.map fun line => ⟨trim (declarationOf line), ';'⟩) := by
    rw [Block.body]
    split
    · rename_i he
      rw [List.isEmpty_iff.1 he]
      exact Cutting.single (Renders.blanks (List.forall_mem_nil _))
    · exact cutting_lines h.lines (by decide)
  rw [Block.rows, pieces_of_not_mem hhead, Written.cuts, ← List.singleton_append]
  refine (Cutting.single (renders_open h.selector)).append (Cutting.append ?_ (Cutting.single renders_close))
  simpa [Block.written, Function.comp_def] using hbody

theorem cutting_base {blocks : List Block} (h : ∀ b ∈ blocks, b.Readable)
    (hrows : ∀ b ∈ blocks, '\n' ∉ b.selector.toList) :
    Renders (Section.text (.base blocks)).toList (Part.cuts ⟨none, blocks.map Block.written⟩) := by
  have hall := Cutting.flatMap fun b hb => cutting_rows (h b hb) (hrows b hb)
  rw [base_text]
  simpa [Part.cuts, List.flatMap_map] using hall.unlined

theorem cutting_media {query : String} (hq : Contained ("@media " ++ query).toList) {blocks : List Block}
    (hne : blocks ≠ []) (h : ∀ b ∈ blocks, b.shifted.Readable)
    (hrows : ∀ b ∈ blocks, '\n' ∉ b.selector.toList) :
    Renders (Section.text (.media query blocks)).toList
      (Part.cuts ⟨some (trim ("@media " ++ query).toList), (blocks.map Block.shifted).map Block.written⟩) := by
  have hcutting : ∀ b ∈ blocks.map Block.shifted, Cutting b.rows b.written.cuts := by
    rw [List.forall_mem_map]
    exact fun b hb => cutting_rows (h b hb) (hrows b hb)
  have hall := (Cutting.single (renders_open hq)).append
    ((Cutting.flatMap hcutting).padded.append (Cutting.single renders_close))
  rw [media_text hne, nested, ← List.singleton_append]
  simpa [Part.cuts, List.flatMap_map] using hall.unlined

end UtilityCss.Stylesheet
