import UtilityCss.Text.Blank

namespace UtilityCss.Text

def pieces (sep : Char) (s : String) : List String :=
  (s.toList.splitOn sep).map String.ofList

def cut? (sep : Char) : List Char → Option (List Char × List Char)
  | [] => none
  | c :: r => if c = sep then some ([], r) else (cut? sep r).map fun p => (c :: p.1, p.2)

def after? : List Char → List Char → Option (List Char)
  | [], cs => some cs
  | _ :: _, [] => none
  | f :: fs, c :: cs => if f = c then after? fs cs else none

def afterFirst? (mark : List Char) : List Char → Option (List Char)
  | [] => after? mark []
  | c :: r =>
    match after? mark (c :: r) with
    | some rest => some rest
    | none => afterFirst? mark r

def contains (mark text : List Char) : Bool :=
  (afterFirst? mark text).isSome

def replaceChar (c : Char) (by_ : List Char) (cs : List Char) : List Char :=
  cs.flatMap fun d => if d = c then by_ else [d]

def dropFinalNewline (cs : List Char) : List Char :=
  if cs.getLast? = some '\n' then cs.dropLast else cs

theorem after?_eq_some_iff {fs cs r : List Char} : after? fs cs = some r ↔ cs = fs ++ r := by
  induction fs generalizing cs with
  | nil => simp [after?]
  | cons f fs ih =>
    cases cs with
    | nil => simp [after?]
    | cons c cs =>
      by_cases h : f = c
      · simp [after?, h, ih]
      · simp [after?, h, Ne.symm h]

end UtilityCss.Text
