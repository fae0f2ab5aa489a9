import UtilityCss.Proofs.Text.Pieces
import UtilityCss.Stylesheet.Text

namespace UtilityCss.Stylesheet

open Text

def padded (row : String) : String :=
  if row = "" then row else "  " ++ row

def Block.body (b : Block) : List String :=
  if b.lines.isEmpty then [""] else b.lines.map (indent ++ ·)

def Block.rows (b : Block) : List String :=
  pieces '\n' (b.selector ++ " \x7b") ++ (b.body ++ ["\x7d"])

/-- The rows of the text of a block: a selector or a line with line feeds takes a row for each part. -/
def Block.laid (b : Block) : List String :=
  let parts (s : String) : List String := (s.toList.splitOn '\n').map String.ofList
  parts (b.selector ++ " \x7b") ++
    (if b.lines.isEmpty then [""] else b.lines.flatMap fun line => parts ("  " ++ line)) ++ ["\x7d"]

def shifted (line : String) : String :=
  match pieces '\n' line with
  | [] => line
  | first :: rest => unlines (first :: rest.map padded)

def Block.shifted (b : Block) : Block :=
  ⟨b.selector, b.lines.map Stylesheet.shifted⟩

def rootRows (properties : List (String × String)) : List String :=
  ":root \x7b" :: (properties.map (fun d => "  " ++ (d.1 ++ ": " ++ d.2 ++ ";")) ++ ["\x7d"])

def nested (head : String) (rows : List String) : List String :=
  (head ++ " \x7b") :: (rows.map padded ++ ["\x7d"])

def sheet (sections : List (List String)) : String :=
  "\n\n".intercalate (sections.map "\n".intercalate) ++ "\n"

theorem unlines_cons_cons (x y : String) (rows : List String) :
    unlines (x :: y :: rows) = x ++ "\n" ++ unlines (y :: rows) :=
  String.intercalate_cons_cons

theorem toList_unlines_cons (x y : String) (rows : List String) :
    (unlines (x :: y :: rows)).toList = x.toList ++ '\n' :: (unlines (y :: rows)).toList := by
  rw [unlines_cons_cons]
  simp

theorem unlines_append {xs ys : List String} (hx : xs ≠ []) (hy : ys ≠ []) :
    unlines (xs ++ ys) = unlines xs ++ "\n" ++ unlines ys :=
  String.intercalate_append_of_ne_nil hx hy

theorem unlines_braced (head : String) {rows : List String} (h : rows ≠ []) :
    unlines ((head ++ " \x7b") :: (rows ++ ["\x7d"])) = braces head (unlines rows) := by
  have hrows : rows ++ ["\x7d"] ≠ [] := by simp
  have hone (s : String) : unlines [s] = s := String.intercalate_singleton
  rw [← List.singleton_append, unlines_append (by simp) hrows, unlines_append h (by simp), hone, hone,
    braces, ← String.toList_inj]
  simp

theorem body_ne_nil (b : Block) : b.body ≠ [] := by
  rw [Block.body]
  split
  · simp
  · rename_i h
    simpa using h

theorem unlines_body (b : Block) : unlines b.body = unlines (b.lines.map (indent ++ ·)) := by
  rw [Block.body]
  split
  · rename_i h
    rw [List.isEmpty_iff.1 h]
    rfl
  · rfl

theorem rows_ne_nil (b : Block) : b.rows ≠ [] := by
  simp [Block.rows]

theorem unlines_rows (b : Block) : unlines b.rows = b.text := by
  have htail := body_ne_nil b
  have hpieces := pieces_ne_nil '\n' (b.selector ++ " \x7b")
  have hone : unlines ["\x7d"] = "\x7d" := String.intercalate_singleton
  have hselector : unlines (pieces '\n' (b.selector ++ " \x7b")) = b.selector ++ " \x7b" :=
    intercalate_pieces rfl _
  rw [Block.rows, unlines_append hpieces (by simp), unlines_append htail (by simp), unlines_body, hone,
    hselector, Block.text, braces, ← String.toList_inj]
  simp

theorem shifted_of_not_mem {line : String} (h : '\n' ∉ line.toList) : shifted line = line := by
  rw [shifted, pieces_of_not_mem h]
  exact String.intercalate_singleton

theorem Block.shifted_eq {b : Block} (h : ∀ line ∈ b.lines, '\n' ∉ line.toList) : b.shifted = b := by
  have hlines : b.lines.map Stylesheet.shifted = b.lines := by
    rw [List.map_congr_left fun line hl => shifted_of_not_mem (h line hl), List.map_id']
  rw [Block.shifted, hlines]

theorem pieces_unlines {xs : List String} (h : xs ≠ []) :
    pieces '\n' (unlines xs) = xs.flatMap (pieces '\n') := by
  induction xs with
  | nil => exact absurd rfl h
  | cons x xs ih =>
    cases xs with
    | nil => simp [unlines]
    | cons y ys =>
      rw [unlines_cons_cons, pieces_join rfl, ih (List.cons_ne_nil _ _)]
      rfl

theorem unlines_cons_append (s t : String) (rows : List String) :
    unlines ((s ++ t) :: rows) = s ++ unlines (t :: rows) :=
  String.intercalate_cons_append

theorem padded_indent (s : String) : padded (indent ++ s) = indent ++ (indent ++ s) := by
  have hne : indent ++ s ≠ "" := by
    rw [ne_eq, ← String.toList_inj]
    simp [indent]
  rw [padded, if_neg hne]
  rfl

theorem unlines_padded (line : String) :
    unlines ((pieces '\n' (indent ++ line)).map padded) = padded (indent ++ shifted line) := by
  have hindent : '\n' ∉ indent.toList := by decide
  obtain ⟨first, rest, hp⟩ := List.exists_cons_of_ne_nil (pieces_ne_nil '\n' line)
  rw [pieces_append hindent, shifted, hp, List.modifyHead_cons, List.map_cons, padded_indent, padded_indent,
    unlines_cons_append, unlines_cons_append]

theorem unlines_body_padded (b : Block) :
    unlines ((b.body.flatMap (pieces '\n')).map padded) = unlines (b.shifted.body.map padded) := by
  rw [Block.body, Block.body, Block.shifted, List.isEmpty_map]
  split
  · rfl
  · have hrows : ∀ rows ∈ b.lines.map fun line => (pieces '\n' (indent ++ line)).map padded, rows ≠ [] := by
      intro rows hm
      obtain ⟨line, _, rfl⟩ := List.mem_map.1 hm
      simpa using pieces_ne_nil '\n' (indent ++ line)
    have hjoin : unlines _ = unlines _ := intercalate_flatten hrows
    rw [List.map_map, ← List.flatMap_def] at hjoin
    rw [List.flatMap_map, List.map_flatMap, List.map_map, List.map_map]
    refine hjoin.symm.trans (congrArg unlines (List.map_congr_left fun line _ => ?_))
    exact unlines_padded line

theorem pieces_text (b : Block) : pieces '\n' b.text =
    pieces '\n' (b.selector ++ " \x7b") ++ (b.body.flatMap (pieces '\n') ++ ["\x7d"]) := by
  have hbrace : pieces '\n' "\x7d" = ["\x7d"] := pieces_of_not_mem (by decide)
  have htext : b.text = b.selector ++ " \x7b" ++ "\n" ++ (unlines b.body ++ "\n" ++ "\x7d") := by
    rw [unlines_body, Block.text, braces, ← String.toList_inj]
    simp
  rw [htext, pieces_join rfl, pieces_join rfl, pieces_unlines (body_ne_nil b), hbrace]

theorem laid_eq (b : Block) : b.laid = pieces '\n' b.text := by
  rw [pieces_text, ← List.append_assoc, Block.body, Block.laid]
  split
  · rfl
  · rw [List.flatMap_map]
    rfl

theorem indented_eq (text : String) : indented text = unlines ((pieces '\n' text).map padded) := by
  rw [indented]
  congr 2
  funext row
  simp only [padded, String.isEmpty_iff]
  rfl

theorem indented_text (b : Block) : indented b.text = unlines (b.shifted.rows.map padded) := by
  have hhead := pieces_ne_nil '\n' (b.selector ++ " \x7b")
  have hhead' := pieces_ne_nil '\n' (b.shifted.selector ++ " \x7b")
  have hbody : b.body.flatMap (pieces '\n') ≠ [] := by
    obtain ⟨row, rows, hb⟩ := List.exists_cons_of_ne_nil (body_ne_nil b)
    simp [hb, pieces_ne_nil]
  have hshifted : b.shifted.body.map padded ≠ [] := by simpa using body_ne_nil b.shifted
  rw [indented_eq, Block.rows, pieces_text, List.map_append, List.map_append, List.map_append, List.map_append,
    unlines_append (by simpa using hhead) (by simp), unlines_append (by simpa using hbody) (by simp),
    unlines_append (by simpa using hhead') (by simp), unlines_append hshifted (by simp), unlines_body_padded]
  rfl

theorem rootRows_eq (properties : List (String × String)) :
    rootRows properties = ":root \x7b" :: ((Rule.linesOf properties).map (indent ++ ·) ++ ["\x7d"]) := by
  rw [rootRows, Rule.linesOf, List.map_map]
  rfl

theorem rootText_eq (properties : List (String × String)) :
    rootText properties = unlines (rootRows properties) := by
  rw [rootText]
  split
  · rename_i h
    rw [List.isEmpty_iff.1 h]
    rfl
  · rename_i h
    have hne : (Rule.linesOf properties).map (indent ++ ·) ≠ [] := by simpa [Rule.linesOf] using h
    rw [rootRows_eq]
    exact (unlines_braced ":root" hne).symm

section

variable {rows : Block → List String}

theorem base_of_rows (hne : ∀ b, rows b ≠ []) (h : ∀ b, unlines (rows b) = b.text) (blocks : List Block) :
    Section.text (.base blocks) = unlines (blocks.flatMap rows) := by
  have hrows : ∀ block ∈ blocks.map rows, block ≠ [] := List.forall_mem_map.2 fun b _ => hne b
  have htext : Block.text = unlines ∘ rows := funext fun b => (h b).symm
  rw [Section.text, htext, ← List.map_map, List.flatMap_def]
  exact intercalate_flatten hrows

theorem media_of_rows (hne : ∀ b, rows b ≠ []) (h : ∀ b, indented b.text = unlines ((rows b).map padded))
    {blocks : List Block} (hb : blocks ≠ []) (query : String) :
    Section.text (.media query blocks) = unlines (nested ("@media " ++ query) (blocks.flatMap rows)) := by
  have hrows : ∀ block ∈ blocks.map fun b => (rows b).map padded, block ≠ [] :=
    List.forall_mem_map.2 fun b _ => by simpa using hne b
  have htext : blocks.map (indented ·.text) = (blocks.map fun b => (rows b).map padded).map unlines := by
    rw [List.map_map]
    exact List.map_congr_left fun b _ => h b
  have hflat : (blocks.map fun b => (rows b).map padded).flatten = (blocks.flatMap rows).map padded := by
    rw [List.map_flatMap, List.flatMap_def]
  have hmap : (blocks.flatMap rows).map padded ≠ [] := by
    obtain ⟨b, rest, rfl⟩ := List.exists_cons_of_ne_nil hb
    simp [hne b]
  rw [Section.text, htext, nested, unlines_braced _ hmap, ← hflat]
  congr 1
  exact intercalate_flatten hrows

end

theorem base_text (blocks : List Block) :
    Section.text (.base blocks) = unlines (blocks.flatMap Block.rows) :=
  base_of_rows rows_ne_nil unlines_rows blocks

theorem media_text {blocks : List Block} (hne : blocks ≠ []) (query : String) :
    Section.text (.media query blocks) =
      unlines (nested ("@media " ++ query) ((blocks.map Block.shifted).flatMap Block.rows)) := by
  rw [List.flatMap_map]
  exact media_of_rows (fun b => rows_ne_nil b.shifted) indented_text hne query

theorem laid_ne_nil (b : Block) : b.laid ≠ [] := by
  rw [laid_eq]
  exact pieces_ne_nil '\n' b.text

theorem base_laid (blocks : List Block) :
    Section.text (.base blocks) = unlines (blocks.flatMap Block.laid) := by
  apply base_of_rows laid_ne_nil
  intro b
  rw [laid_eq]
  exact intercalate_pieces rfl b.text

theorem media_laid {blocks : List Block} (hne : blocks ≠ []) (query : String) :
    Section.text (.media query blocks) =
      unlines (nested ("@media " ++ query) (blocks.flatMap Block.laid)) := by
  apply media_of_rows laid_ne_nil _ hne
  intro b
  rw [laid_eq, indented_eq]

end UtilityCss.Stylesheet
