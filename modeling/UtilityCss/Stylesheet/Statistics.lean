import UtilityCss.Stylesheet.Minify
import UtilityCss.Number.Printer
import UtilityCss.Text.Digit
import UtilityCss.Text.Word
import UtilityCss.Vocabulary

namespace UtilityCss.Stylesheet

open Text

structure Statistics where
  sizeBytes : Nat
  selectors : Nat
  declarations : Nat
  customProperties : Nat
  utilityClasses : Nat
  stateVariantSelectors : Nat
  uniqueColors : Nat
  breakpointBlocks : List (String × Nat)
  colorSchemeBlocks : Nat

namespace Statistics

def heads (cs : List Char) : List (List Char) :=
  go [] cs
where
  go (run : List Char) : List Char → List (List Char)
    | [] => []
    | c :: r =>
      if c = '\x7b' then (if run.isEmpty then [] else [run.reverse]) ++ go [] r
      else if c = '\x7d' then go [] r
      else go (c :: run) r

def ruleSelectors (cs : List Char) : List (List Char) :=
  ((heads cs).map trim).filter fun s => s.head? ≠ some '@'

def isStop (c : Char) : Bool :=
  c == ';' || c == '\x7b' || c == '\x7d'

def valueEnd? (cs : List Char) : Option (List Char) :=
  match cs.dropWhile (!isStop ·) with
  | c :: r => if c ≠ '\x7b' && !isStop (cs.headD ';') then some (c :: r) else none
  | [] => none

def propertyName? (cs : List Char) : Option (List Char × List Char) :=
  let hyphens := (cs.takeWhile (· == '-')).length
  match cs.drop hyphens with
  | c :: r =>
    if hyphens ≤ 2 && isAsciiLetter c then
      some (cs.take hyphens ++ c :: r.takeWhile isWordOrHyphen, r.dropWhile isWordOrHyphen)
    else none
  | [] => none

def declaration? (cs : List Char) : Option (List Char × List Char) :=
  (propertyName? cs).bind fun p =>
    match dropBlanks p.2 with
    | ':' :: r => (valueEnd? r).map (p.1, ·)
    | _ => none

/-- Collects what `read?` finds from the left, each search going on behind the last find. -/
def collect {α : Type} (read? : Option Char → List Char → Option (α × List Char))
    (before : Option Char) (cs : List Char) : List α :=
  match cs with
  | [] => []
  | c :: r =>
    match read? before (c :: r) with
    | some (x, rest) =>
      if _h : rest.length ≤ r.length then
        x :: collect read? ((c :: r)[r.length - rest.length]?) rest
      else x :: collect read? (some c) r
    | none => collect read? (some c) r
termination_by cs.length
decreasing_by
  · exact Nat.lt_succ_of_le _h
  · exact Nat.lt_succ_self _
  · exact Nat.lt_succ_self _

def properties (cs : List Char) : List (List Char) :=
  collect (fun before cs => if before.any isWordOrHyphen then none else declaration? cs) none cs

def nameUnit? : List Char → Option (List Char × List Char)
  | '\\' :: c :: r =>
    if isHexDigit c then
      let more := (r.take 5).takeWhile isHexDigit
      match r.drop more.length with
      | ' ' :: r' => some ('\\' :: c :: more ++ [' '], r')
      | r' => some ('\\' :: c :: more, r')
    else if c = '\n' then none
    else some (['\\', c], r)
  | c :: r => if isNameChar c then some ([c], r) else none
  | [] => none

theorem nameUnit?_length {cs u r : List Char} (h : nameUnit? cs = some (u, r)) :
    r.length < cs.length := by
  unfold nameUnit? at h
  split at h
  · rename_i c r'
    split at h
    · simp only at h
      have hd := List.length_drop (l := r') (i := ((r'.take 5).takeWhile isHexDigit).length)
      split at h
      · rename_i r'' hr
        simp only [Option.some.injEq, Prod.mk.injEq] at h
        rw [hr, List.length_cons] at hd
        simp only [List.length_cons, ← h.2]
        omega
      · simp only [Option.some.injEq, Prod.mk.injEq] at h
        simp only [List.length_cons, ← h.2, hd]
        omega
    · split at h
      · simp at h
      · simp only [Option.some.injEq, Prod.mk.injEq] at h
        simp only [List.length_cons, ← h.2]
        omega
  · split at h
    · simp only [Option.some.injEq, Prod.mk.injEq] at h
      simp [← h.2]
    · simp at h
  · simp at h

def nameRun (cs : List Char) : List Char × List Char :=
  match _h : nameUnit? cs with
  | some (u, r) => let p := nameRun r; (u ++ p.1, p.2)
  | none => ([], cs)
termination_by cs.length
decreasing_by exact nameUnit?_length _h

def classSelector? : List Char → Option (List Char × List Char)
  | '.' :: r =>
    let p := nameRun r
    if p.1.isEmpty then none else some p
  | _ => none

def classNames (cs : List Char) : List (List Char) :=
  collect (fun _ => classSelector?) none cs

def colorFunction? (name : List Char) (cs : List Char) : Option (List Char × List Char) :=
  (after? name cs).bind fun r =>
    let alpha := r.takeWhile (· == 'a') |>.take 1
    match r.drop alpha.length with
    | '(' :: r' =>
      match cut? ')' r' with
      | some (args, rest) =>
        if args.isEmpty then none else some (name ++ alpha ++ '(' :: args ++ [')'], rest)
      | none => none
    | _ => none

def hashColor? : List Char → Option (List Char × List Char)
  | '#' :: r =>
    let digits := r.takeWhile isHexDigit
    let rest := r.dropWhile isHexDigit
    if 3 ≤ digits.length && digits.length ≤ 8 && !(rest.head?.any isWordChar) then
      some ('#' :: digits, rest)
    else none
  | _ => none

def color? (cs : List Char) : Option (List Char × List Char) :=
  (hashColor? cs).or ((colorFunction? ['r', 'g', 'b'] cs).or (colorFunction? ['h', 's', 'l'] cs))

def colors (cs : List Char) : List (List Char) :=
  collect (fun _ => color?) none cs

def mediaOpening? (cs : List Char) : Option (List Char) :=
  (after? "@media".toList cs).bind fun r =>
    match dropBlanks r with
    | '(' :: r => some r
    | _ => none

def afterBlanks? (mark : List Char) (cs : List Char) : Option (List Char) :=
  match cs with
  | [] => after? mark []
  | c :: r => if isBlank c then (afterBlanks? mark r).or (after? mark (c :: r)) else after? mark (c :: r)

def widthMedia? (width : List Char) (cs : List Char) : Option (Unit × List Char) :=
  ((mediaOpening? cs).bind (after? "min-width:".toList)).bind fun r =>
    (afterBlanks? (width ++ [')']) r).map ((), ·)

def schemeMedia? (cs : List Char) : Option (Unit × List Char) :=
  ((mediaOpening? cs).bind (after? "prefers-color-scheme".toList)).map ((), ·)

def countWidth (width : String) (cs : List Char) : Nat :=
  (collect (fun _ => widthMedia? width.toList) none cs).length

def showsState (selector : List Char) : Bool :=
  Vocabulary.variants.values.any fun suffix => contains suffix.toList selector

def isCustom (property : List Char) : Bool :=
  (after? ['-', '-'] property).isSome

def ofText (css : String) (breakpoints : Table String String) : Statistics :=
  let body := dropComments css.toList
  let selectors := ruleSelectors body
  let properties := properties body
  { sizeBytes := css.utf8ByteSize
    selectors := selectors.length
    declarations := properties.length
    customProperties := properties.countP isCustom
    utilityClasses := (classNames (['\n'].intercalate selectors)).eraseDups.length
    stateVariantSelectors := selectors.countP showsState
    uniqueColors := (colors body).eraseDups.length
    breakpointBlocks := breakpoints.entries.map fun e => (e.1, countWidth e.2 body)
    colorSchemeBlocks := (collect (fun _ => schemeMedia?) none body).length }

def kilobytes (bytes : Nat) : String :=
  String.ofList (Number.fixedRatio 2 (bytes, 1024)) ++ " KB"

def rows (s : Statistics) : List (String × String) :=
  [("Size", kilobytes s.sizeBytes), ("Selectors", toString s.selectors),
    ("Declarations", toString s.declarations), ("Custom properties", toString s.customProperties),
    ("Utility classes", toString s.utilityClasses),
    ("State variant selectors", toString s.stateVariantSelectors),
    ("Unique colors", toString s.uniqueColors)]
  ++ s.breakpointBlocks.map (fun e => ("@media " ++ e.1, toString e.2))
  ++ [("prefers-color-scheme blocks", toString s.colorSchemeBlocks)]

end Statistics

end UtilityCss.Stylesheet
