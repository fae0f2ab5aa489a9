import UtilityCss.Text.Cut

namespace UtilityCss.Stylesheet

open Text

theorem afterFirst?_length {mark cs r : List Char} (h : afterFirst? mark cs = some r) :
    r.length ≤ cs.length := by
  induction cs with
  | nil =>
    rw [afterFirst?, after?_eq_some_iff] at h
    have := congrArg List.length h
    simp only [List.length_nil, List.length_append] at this
    omega
  | cons c cs ih =>
    rw [afterFirst?] at h
    split at h
    · rename_i rest hr
      have := congrArg List.length (after?_eq_some_iff.1 hr)
      simp only [Option.some.injEq] at h
      simp only [List.length_cons, List.length_append] at this ⊢
      rw [← h]
      omega
    · have := ih h
      simp only [List.length_cons]
      omega

def dropComments (cs : List Char) : List Char :=
  match cs with
  | '/' :: '*' :: r =>
    match _h : afterFirst? ['*', '/'] r with
    | some rest => dropComments rest
    | none => '/' :: dropComments ('*' :: r)
  | c :: r => c :: dropComments r
  | [] => []
termination_by cs.length
decreasing_by
  · have := afterFirst?_length _h
    simp only [List.length_cons]
    omega
  · simp
  · simp

def collapse : List Char → List Char
  | [] => []
  | c :: r =>
    if isBlank c then
      match r with
      | d :: _ => if isBlank d then collapse r else ' ' :: collapse r
      | [] => [' ']
    else c :: collapse r

def isMark (c : Char) : Bool :=
  c == '\x7b' || c == '\x7d' || c == ':' || c == ';' || c == ','

def startsWithMark : List Char → Bool
  | c :: _ => isMark c
  | [] => false

/-- Takes away the spaces next to a mark; `afterMark` tells whether a mark stands just before. -/
def tighten (afterMark : Bool) : List Char → List Char
  | [] => []
  | c :: r =>
    if isBlank c then
      if afterMark || startsWithMark r then tighten afterMark r else c :: tighten false r
    else c :: tighten (isMark c) r

def dropLastSemicolons : List Char → List Char
  | ';' :: '\x7d' :: r => '\x7d' :: dropLastSemicolons r
  | c :: r => c :: dropLastSemicolons r
  | [] => []

def minifyChars (cs : List Char) : List Char :=
  trim (dropLastSemicolons (tighten false (collapse (dropComments cs))))

def minify (css : String) : String :=
  String.ofList (minifyChars css.toList)

end UtilityCss.Stylesheet
