import UtilityCss.Proofs.Cascade.References
import UtilityCss.Rule

namespace UtilityCss.Cascade

open Text

def declaration? (line : String) : Option (String × String) :=
  (cut? ':' line.toList).map fun p => (String.ofList p.1, String.ofList (p.2.drop 1).dropLast)

def declared? (lines : List String) (property : String) : Option String :=
  ((lines.filterMap declaration?).reverse.find? fun d => d.1 = property).map Prod.snd

def Agrees (outside : Style) (lines : List String) (style : Style) : Prop :=
  ∀ property, style property =
    match declared? lines property with
    | some text => style.substituted text
    | none => outside property

theorem declaration?_line {property : String} (h : ':' ∉ property.toList) (value : String) :
    declaration? (property ++ ": " ++ value ++ ";") = some (property, value) := by
  have hline : (property ++ ": " ++ value ++ ";").toList = property.toList ++ ':' :: ' ' :: (value.toList ++ [';']) := by
    simp
  rw [declaration?, hline, cut?_append h]
  simp

variable {lines : List String} {property : String}

theorem declared?_append (xs ys : List String) :
    declared? (xs ++ ys) property = (declared? ys property).or (declared? xs property) := by
  rw [declared?, List.filterMap_append, List.reverse_append, List.find?_append, Option.map_or, ← declared?,
    ← declared?]

theorem declared?_linesOf {ds : List (String × String)} (h : ∀ d ∈ ds, ':' ∉ d.1.toList) :
    declared? (Rule.linesOf ds) property = (ds.reverse.find? fun d => d.1 = property).map Prod.snd := by
  have hread : (Rule.linesOf ds).filterMap declaration? = ds := by
    rw [Rule.linesOf, List.filterMap_map]
    induction ds with
    | nil => rfl
    | cons d ds ih =>
      rw [List.forall_mem_cons] at h
      rw [List.filterMap_cons, Function.comp, declaration?_line h.1, ih h.2]
  rw [declared?, hread]

theorem declared?_flatMap {α : Type} {f : α → List String} {xs : List α} (h : ∀ x ∈ xs, f x = [] ∨ f x = lines)
    (hne : ∃ x ∈ xs, f x ≠ []) : declared? (xs.flatMap f) property = declared? lines property := by
  induction xs with
  | nil => simp at hne
  | cons x xs ih =>
    rw [List.forall_mem_cons] at h
    rw [List.flatMap_cons, declared?_append]
    by_cases hrest : ∃ y ∈ xs, f y ≠ []
    · rw [ih h.2 hrest]
      rcases h.1 with hx | hx
      · rw [hx]
        exact Option.or_none
      · rw [hx, Option.or_self]
    · have hnil : xs.flatMap f = [] := by
        rw [List.flatMap_eq_nil_iff]
        intro y hy
        by_contra he
        exact hrest ⟨y, hy, he⟩
      have hx : f x = lines := by
        obtain ⟨y, hy, he⟩ := hne
        rcases List.mem_cons.1 hy with rfl | hy
        · exact h.1.resolve_left he
        · exact absurd ⟨y, hy, he⟩ hrest
      rw [hnil, hx]
      rfl

end UtilityCss.Cascade
