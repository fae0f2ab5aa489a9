import UtilityCss.Text.Cut

namespace UtilityCss.Pattern

inductive Piece where
  | any
  | oneOf (negated : Bool) (ranges : List (Char × Char))
  deriving DecidableEq

namespace Piece

def literal (c : Char) : Piece :=
  oneOf false [(c, c)]

def one : Piece :=
  oneOf true []

def accepts (c : Char) : Piece → Bool
  | any => true
  | oneOf negated ranges => (ranges.any fun r => r.1 ≤ c && c ≤ r.2) != negated

def matchEnds : List Piece → List Char → List Bool
  | [], cs => cs.foldr (fun _ bs => false :: bs) [true]
  | any :: ps, cs => (matchEnds ps cs).foldr (fun b bs => (b || bs.headD false) :: bs) []
  | p :: ps, cs => List.zipWith (fun c b => p.accepts c && b) cs (matchEnds ps cs).tail ++ [false]

def matchAll (ps : List Piece) (cs : List Char) : Bool :=
  (matchEnds ps cs).headD false

def chunks : Nat → List Char → List (List Char)
  | _, [] => [[]]
  | n + 1, c :: r => (chunks n r).modifyHead (c :: ·)
  | 0, c :: r => if c = '-' then [] :: chunks 2 r else (chunks 0 r).modifyHead (c :: ·)

def closeLast (cs : List (List Char)) : List (List Char) :=
  if 1 < cs.length && cs.getLast? = some [] then
    cs.dropLast.dropLast ++ [(cs.dropLast.getLastD []) ++ ['-']]
  else cs

def dropEmptyRanges : List (List Char) → List (List Char)
  | [] => []
  | c :: r =>
    match dropEmptyRanges r with
    | [] => [c]
    | d :: ds =>
      match c.getLast?, d with
      | some a, b :: rest => if b < a then (c.dropLast ++ rest) :: ds else c :: d :: ds
      | _, _ => c :: d :: ds

def rangesOf : List (List Char) → List (Char × Char)
  | [] => []
  | c :: r =>
    let joint := match c.getLast?, r with
      | some a, (b :: _) :: _ => [(a, b)]
      | _, _ => []
    c.map (fun x => (x, x)) ++ joint ++ rangesOf r

def ofBracket (inside : List Char) : Piece :=
  let free := if inside.head? = some '!' then 2 else 1
  match dropEmptyRanges (closeLast (chunks free inside)) with
  | ('!' :: c) :: r => oneOf true (rangesOf (c :: r))
  | cs => oneOf false (rangesOf cs)

def bracket? (cs : List Char) : Option (List Char × List Char) :=
  let front := match cs with
    | '!' :: ']' :: _ => 2
    | '!' :: _ => 1
    | ']' :: _ => 1
    | _ => 0
  (Text.cut? ']' (cs.drop front)).map fun p => (cs.take front ++ p.1, p.2)

def parse : Nat → List Char → List Piece
  | 0, _ => []
  | _, [] => []
  | fuel + 1, c :: r =>
    if c = '*' then any :: parse fuel r
    else if c = '?' then one :: parse fuel r
    else if c = '[' then
      match bracket? r with
      | some (inside, rest) => ofBracket inside :: parse fuel rest
      | none => literal '[' :: parse fuel r
    else literal c :: parse fuel r

end Piece

def pieces (cs : List Char) : List Piece :=
  Piece.parse cs.length cs

def matchesName (pattern name : String) : Bool :=
  Piece.matchAll (pieces pattern.toList) name.toList

def hasWildcard (s : String) : Bool :=
  s.toList.any fun c => c = '*' || c = '?' || c = '['

end UtilityCss.Pattern
