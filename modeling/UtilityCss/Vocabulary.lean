import UtilityCss.Table

namespace UtilityCss

inductive Scheme where
  | dark | light
  deriving DecidableEq

namespace Scheme

def all : List Scheme := [dark, light]

def name : Scheme → String
  | dark => "dark"
  | light => "light"

def ofName? (s : String) : Option Scheme :=
  all.find? fun m => m.name = s

def toggles : Scheme → List String
  | dark => ["[data-theme=\"dark\"]", ".dark-mode"]
  | light => ["[data-theme=\"light\"]", ".light-mode"]

@[simp] theorem ofName?_name (m : Scheme) : ofName? m.name = some m := by
  cases m <;> rfl

end Scheme

namespace Vocabulary

def breakpoints : Table String String := .ofList [
  ("sm", "640px"), ("md", "768px"), ("lg", "1024px"), ("xl", "1280px"), ("2xl", "1536px")]

def variants : Table String String := .ofList [
  ("hover", ":hover"), ("focus", ":focus"), ("focus-visible", ":focus-visible"),
  ("focus-within", ":focus-within"), ("active", ":active"), ("disabled", ":disabled"),
  ("visited", ":visited"), ("first", ":first-child"), ("last", ":last-child"),
  ("odd", ":nth-child(odd)"), ("even", ":nth-child(even)"), ("placeholder", "::placeholder"),
  ("group-hover", ":hover"), ("group-focus", ":focus")]

def modes : List String :=
  Scheme.all.map Scheme.name

def groupMark : String := "group-"

end Vocabulary

end UtilityCss
