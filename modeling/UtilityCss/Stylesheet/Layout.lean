import UtilityCss.Number.Reader
import UtilityCss.Selector
import UtilityCss.Theme.Properties

/-!
The layout of a stylesheet: which blocks there are, and in which section each of them stands. A rule of a
colour scheme has two blocks, one behind the toggles of the scheme and one for readers who prefer it.
-/

namespace UtilityCss.Stylesheet

open Number

structure Block where
  selector : String
  lines : List String
  deriving DecidableEq

/-- Where a block stands: in the base or from a breakpoint's width on, for all or for those who prefer a
scheme. -/
structure Place where
  scheme : Option Scheme
  breakpoint : Option String
  deriving DecidableEq

inductive Section where
  | root (properties : List (String × String))
  | verbatim (text : String)
  | base (blocks : List Block)
  | media (query : String) (blocks : List Block)

def leastWidth (width : String) : Binary64 :=
  match numeral? width.toList with
  | some (number, _) => Binary64.ofNumeral number
  | none => Binary64.zero false

def ordered (breakpoints : Table String String) : List String :=
  (breakpoints.entries.mergeSort fun a b => (leastWidth a.2).le (leastWidth b.2)).map Prod.fst

def toggled (m : Scheme) (selector : String) : String :=
  ", ".intercalate (m.toggles.map fun t => t ++ " " ++ selector)

def knownBreakpoint (breakpoints : Table String String) (c : Context) : Option String :=
  c.breakpoint.filter breakpoints.contains

def blocksOf (breakpoints : Table String String) (token : String) (r : Rule) : List (Place × Block) :=
  let selector := Selector.build Vocabulary.variants token r.context
  let at_ := knownBreakpoint breakpoints r.context
  match r.context.mode.bind Scheme.ofName? with
  | none => [(⟨none, at_⟩, ⟨selector, r.lines⟩)]
  | some m => [(⟨none, at_⟩, ⟨toggled m selector, r.lines⟩), (⟨some m, at_⟩, ⟨selector, r.lines⟩)]

def placed (breakpoints : Table String String) (rules : Table String (List Rule)) :
    List (Place × Block) :=
  rules.entries.flatMap fun e => (Rule.merge e.2).flatMap (blocksOf breakpoints e.1)

def standing (p : Place) (bs : List (Place × Block)) : List Block :=
  (bs.filter fun b => b.1 = p).map Prod.snd

def widthQuery (breakpoints : Table String String) (name : String) : String :=
  "(min-width: " ++ (breakpoints.get? name).getD "" ++ ")"

def schemeQuery (m : Scheme) : String :=
  "(prefers-color-scheme: " ++ m.name ++ ")"

def query (breakpoints : Table String String) (p : Place) : String :=
  match p.scheme, p.breakpoint with
  | some m, some name => schemeQuery m ++ " and " ++ widthQuery breakpoints name
  | some m, none => schemeQuery m
  | none, some name => widthQuery breakpoints name
  | none, none => ""

def mediaPlaces (breakpoints : Table String String) : List Place :=
  let names := ordered breakpoints
  names.map (⟨none, some ·⟩) ++
    Scheme.all.flatMap fun m => (none :: names.map some).map (⟨some m, ·⟩)

def ruleSections (breakpoints : Table String String) (bs : List (Place × Block)) : List Section :=
  let base := standing ⟨none, none⟩ bs
  (if base.isEmpty then [] else [.base base]) ++
    (mediaPlaces breakpoints).filterMap fun p =>
      let blocks := standing p bs
      if blocks.isEmpty then none else some (.media (query breakpoints p) blocks)

structure Opening where
  properties : Option (List (String × String))
  preamble : Option String

def Opening.sections (o : Opening) : List Section :=
  (o.properties.map Section.root).toList ++
    ((o.preamble.filter (!·.isEmpty)).map fun s => Section.verbatim (Text.trimmed s)).toList

def sections (o : Opening) (breakpoints : Table String String) (rules : Table String (List Rule)) :
    List Section :=
  o.sections ++ ruleSections breakpoints (placed breakpoints rules)

end UtilityCss.Stylesheet
