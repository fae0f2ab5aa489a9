import UtilityCss.Text.Cut
import UtilityCss.Text.Width

namespace UtilityCss.Text

inductive Align where
  | none
  | left
  | center
  | right
  deriving DecidableEq

inductive Overlong where
  | fold
  | ellipsis
  deriving DecidableEq

structure Cluster where
  chars : List Char
  cells : Nat

namespace Cluster

structure Collected where
  found : List Cluster
  last : Option Char
  joined : Bool

def Collected.extend (s : Collected) (c : Char) (cells : Nat) : List Cluster :=
  match s.found with
  | [] => [⟨[c], cells⟩]
  | k :: ks => ⟨k.chars ++ [c], k.cells + cells⟩ :: ks

def Collected.step (s : Collected) (c : Char) : Collected :=
  if s.joined then ⟨s.extend c 0, s.last, false⟩
  else if c = joiner then ⟨s.extend c 0, s.last, !s.found.isEmpty⟩
  else if c = pictographMark then
    if !s.found.isEmpty && s.last.any (inRanges pictographRanges) then ⟨s.extend c 1, .none, false⟩
    else ⟨s.extend c 0, s.last, false⟩
  else if charWidth c = 0 then ⟨s.extend c 0, s.last, false⟩
  else ⟨⟨[c], charWidth c⟩ :: s.found, some c, false⟩

end Cluster

def clusters (cs : List Char) : List Cluster :=
  (cs.foldl Cluster.Collected.step ⟨[], .none, false⟩).found.reverse

def takeCells : Nat → List Cluster → List Char
  | _, [] => []
  | 0, _ :: _ => []
  | n + 1, k :: ks => if k.cells ≤ n + 1 then k.chars ++ takeCells (n + 1 - k.cells) ks else [' ']

def spaces (n : Nat) : List Char :=
  List.replicate n ' '

def truncate (overlong : Overlong) (columns : Nat) (cs : List Char) : List Char :=
  if width cs ≤ columns then cs
  else match overlong with
    | .fold => takeCells columns (clusters cs)
    | .ellipsis => takeCells (columns - 1) (clusters cs) ++ ['…']

def fold (columns : Nat) (line : List Char × Nat) : List Cluster → List (List Char)
  | [] => if line.2 = 0 then [] else [line.1]
  | k :: ks =>
    if columns < line.2 + k.cells then line.1 :: fold columns (k.chars, k.cells) ks
    else fold columns (line.1 ++ k.chars, line.2 + k.cells) ks

def tabStop : Nat := 8

def expandTabs (cs : List Char) : List Char :=
  match cs.splitOn '\t' with
  | [] => []
  | p :: ps => (ps.foldl (fun (s : List Char × Nat × List Char) part =>
      let column := s.2.1 + width (s.2.2 ++ [' '])
      let gap := (tabStop - column % tabStop) % tabStop
      (s.1 ++ s.2.2 ++ spaces (gap + 1), column + gap, part)) ([], 0, p)) |> fun s => s.1 ++ s.2.2

def dropBlanksRight (cs : List Char) : List Char :=
  (cs.reverse.dropWhile isBlank).reverse

def wordRuns : Nat → List Char → List (List Char)
  | 0, _ => []
  | _, [] => []
  | fuel + 1, cs =>
    let word := cs.takeWhile fun c => !isBlank c
    let rest := cs.drop word.length
    let blanks := rest.takeWhile isBlank
    (word ++ blanks) :: wordRuns fuel (rest.drop blanks.length)

def spacedWords (cs : List Char) : List (List Char) :=
  let front := cs.takeWhile isBlank
  match wordRuns cs.length (cs.drop front.length) with
  | [] => []
  | w :: ws => (front ++ w) :: ws

/-- Lines in the making: those that are done, the latest first, and the one at hand with its cells. -/
structure Filling where
  done : List (List Char)
  line : List Char
  cells : Nat

namespace Filling

def flush (f : Filling) : List (List Char) :=
  if f.line.isEmpty then f.done else f.line :: f.done

def add (overlong : Overlong) (columns : Nat) (f : Filling) (word : List Char) : Filling :=
  let bare := width (dropBlanksRight word)
  if f.cells + bare ≤ columns then ⟨f.done, f.line ++ word, f.cells + width word⟩
  else if columns < bare && overlong = .fold then
    match (fold columns ([], 0) (clusters word)).reverse with
    | [] => ⟨f.flush, [], 0⟩
    | last :: before => ⟨before ++ f.flush, last, width last⟩
  else ⟨f.flush, word, width word⟩

end Filling

def cutLine (overlong : Overlong) (columns : Nat) (cs : List Char) : List (List Char) :=
  match spacedWords cs with
  | [] => [cs]
  | ws =>
    let f := ws.foldl (Filling.add overlong columns) ⟨[], [], 0⟩
    (f.line :: f.done).reverse

def dropExcessBlanks (columns : Nat) (cs : List Char) : List Char :=
  let blanks := (cs.reverse.takeWhile isBlank).length
  cs.take (cs.length - min blanks (cs.length - columns))

def fill (columns : Nat) (cs : List Char) : List Char :=
  cs ++ spaces (columns - width cs)

def align (columns : Nat) (overlong : Overlong) (cs : List Char) : Align → List Char
  | .none => cs
  | .left => fill columns (truncate overlong columns cs)
  | .right =>
    let cs := truncate overlong columns (dropBlanksRight cs)
    spaces (columns - width cs) ++ cs
  | .center =>
    let cs := truncate overlong columns (dropBlanksRight cs)
    fill columns (spaces ((columns - width cs) / 2) ++ cs)

def wrap (a : Align) (overlong : Overlong) (columns : Nat) (cs : List Char) : List (List Char) :=
  (cs.splitOn '\n').flatMap fun line =>
    (cutLine overlong columns (expandTabs line)).map fun l =>
      truncate overlong columns (align columns overlong (dropExcessBlanks columns l) a)

def lineEndRanges : List (Nat × Nat) :=
  [(0xA, 0xD), (0x1C, 0x1E), (0x85, 0x85), (0x2028, 0x2029)]

def widest (cs : List Char) : Nat :=
  (((cs.splitOnP (inRanges lineEndRanges)).map width).max?).getD 0

end UtilityCss.Text
