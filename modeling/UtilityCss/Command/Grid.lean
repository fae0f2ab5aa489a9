import UtilityCss.Command.Styled
import UtilityCss.Number.Rounding
import UtilityCss.Text.Wrap

namespace UtilityCss.Command

open Text

def screenWidth : Nat := 4000

structure Column where
  heading : String
  align : Align

structure Grid where
  title : String
  columns : List Column
  rows : List (List String)

namespace Grid

def cells (g : Grid) : List (List String) :=
  g.columns.zipIdx.map fun c => c.1.heading :: g.rows.map fun r => r.getD c.2 ""

def frameWidth (g : Grid) : Nat :=
  g.columns.length + 1

/-- Takes `excess` cells from the columns that are marked, in equal parts, at most `limit` from each. The
second argument counts the marked columns. -/
def reduce (limit : Nat) : Nat → Nat → List (Nat × Bool) → List Nat
  | _, _, [] => []
  | excess, marked, (w, true) :: ws =>
    let part := min limit (Number.roundHalfEven excess marked)
    (w - part) :: reduce limit (excess - part) (marked - 1) ws
  | excess, marked, (w, false) :: ws => w :: reduce limit excess marked ws

def shrink (available : Nat) : Nat → List Nat → List Nat
  | 0, ws => ws
  | fuel + 1, ws =>
    let excess := ws.foldl (· + ·) 0 - available
    let widest := ws.max?.getD 0
    let next := (ws.filter (· ≠ widest)).max?.getD 0
    if excess = 0 || widest = 0 then ws
    else
      let marked := ws.map fun w => (w, decide (w = widest))
      shrink available fuel (reduce (min excess (widest - next)) excess (marked.countP (·.2)) marked)

def widths (g : Grid) (columns : List (List (List Char))) : List Nat :=
  let available := screenWidth - g.frameWidth
  let natural := columns.map fun cs => min available ((cs.map widest).max?.getD 0 + 2)
  shrink available (natural.foldl (· + ·) 0) natural

def rule (left fill joint right : Char) (widths : List Nat) : List Char :=
  left :: ([joint].intercalate (widths.map fun w => List.replicate w fill)) ++ [right]

def cellLines (a : Align) (columns : Nat) (cs : List Char) : List (List Char) :=
  (wrap a .ellipsis (columns - 2) cs).map fun l => ' ' :: fill (columns - 2) l ++ [' ']

def rowLines (bar : Char) (columns : List (Align × Nat)) (row : List (List Char)) : List (List Char) :=
  let cells := (columns.zip row).map fun c => (c.1.2, cellLines c.1.1 c.1.2 c.2)
  let height := (cells.map fun c => c.2.length).max?.getD 0
  (List.range height).map fun i =>
    bar :: ([bar].intercalate (cells.map fun c => c.2.getD i (spaces c.1))) ++ [bar]

def shownCells (g : Grid) : Except TagFault (List (List (List Char))) :=
  g.cells.mapM fun cs => cs.mapM plainText

def lines (g : Grid) : Except TagFault (List (List Char)) := do
  let columns ← g.shownCells
  let title ← plainText g.title
  let ws := g.widths columns
  let total := ws.foldl (· + ·) g.frameWidth
  let aligned := (g.columns.map Column.align).zip ws
  let row := fun bar i => rowLines bar aligned (columns.map fun c => c.getD i [])
  return wrap .center .fold total title
    ++ rule '┏' '━' '┳' '┓' ws :: row '┃' 0
    ++ rule '┡' '━' '╇' '┩' ws :: (List.range g.rows.length).flatMap (fun i => row '│' (i + 1))
    ++ [rule '└' '─' '┴' '┘' ws]

def text (g : Grid) : Except TagFault String :=
  g.lines.map fun ls => String.ofList (ls.flatMap fun l => l ++ ['\n'])

end Grid

end UtilityCss.Command
