import Mathlib.Data.List.Basic
import UtilityCss.Config.Schema

/-!
Maps of tokens that use up the calls. A map is turned into texts entry by entry, each map inside it by a call of
its own; checking ends where a value is met that no call is left for.
-/

namespace UtilityCss

namespace Schema

open Document (Host)

variable {α β : Type}

def Ends (c : Checked α) : Prop :=
  ∃ x ∈ findings c, x.issue = .endless

def Given (names : List String) (entries : List (Scalar × Datum)) (d : Datum) : Prop :=
  ∃ front name back, names = front ++ name :: back ∧ Datum.field? name entries = some d ∧
    ∀ n ∈ front, Datum.field? n entries = none

theorem exists_named?_iff {names : List String} {entries : List (Scalar × Datum)} {d : Datum} :
    (∃ n, named? names entries = some (n, d)) ↔ Given names entries d := by
  simp only [named?, List.findSome?_eq_some_iff, Given, Option.map_eq_some_iff, Option.map_eq_none_iff,
    Prod.mk.injEq]
  constructor
  · rintro ⟨_, front, name, back, rfl, ⟨_, hd, rfl, rfl⟩, hfront⟩
    exact ⟨front, name, back, rfl, hd, hfront⟩
  · rintro ⟨front, name, back, rfl, hd, hfront⟩
    exact ⟨name, front, name, back, rfl, ⟨d, hd, rfl, rfl⟩, hfront⟩

@[simp] theorem given_singleton {name : String} {entries : List (Scalar × Datum)} {d : Datum} :
    Given [name] entries d ↔ Datum.field? name entries = some d := by
  simp [← exists_named?_iff, named?]

variable [Host]

end Schema

end UtilityCss
