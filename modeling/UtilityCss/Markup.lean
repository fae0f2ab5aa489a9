import UtilityCss.Text.Cut
import UtilityCss.Text.Word

namespace UtilityCss.Markup

open Text

def quotedValue? : List Char → Option (List Char × List Char)
  | '"' :: r => cut? '"' r
  | '\'' :: r => cut? '\'' r
  | _ => none

def attribute? (cs : List Char) : Option (List Char × List Char) :=
  (after? ['c', 'l', 'a', 's', 's'] cs).bind fun r =>
    match dropBlanks r with
    | '=' :: r => quotedValue? (dropBlanks r)
    | _ => none

theorem cut?_length {sep : Char} {cs a b : List Char} (h : cut? sep cs = some (a, b)) :
    b.length < cs.length := by
  induction cs generalizing a with
  | nil => simp [cut?] at h
  | cons c r ih =>
    by_cases hc : c = sep
    · simp only [cut?, hc, if_true, Option.some.injEq, Prod.mk.injEq] at h
      simp [← h.2]
    · simp only [cut?, hc, if_false, Option.map_eq_some_iff] at h
      obtain ⟨p, hp, he⟩ := h
      have := ih (a := p.1) (by rw [hp, ← (Prod.mk.inj he).2])
      simp only [List.length_cons]
      omega

theorem quotedValue?_length {cs a b : List Char} (h : quotedValue? cs = some (a, b)) :
    b.length < cs.length := by
  unfold quotedValue? at h
  split at h
  · have := cut?_length h
    simp only [List.length_cons]
    omega
  · have := cut?_length h
    simp only [List.length_cons]
    omega
  · simp at h

theorem dropBlanks_length (cs : List Char) : (dropBlanks cs).length ≤ cs.length :=
  (List.dropWhile_sublist _).length_le

theorem attribute?_length {cs a b : List Char} (h : attribute? cs = some (a, b)) :
    b.length < cs.length := by
  unfold attribute? at h
  obtain ⟨r, hr, h⟩ := Option.bind_eq_some_iff.1 h
  have hlen : r.length ≤ cs.length := by
    rw [after?_eq_some_iff.1 hr, List.length_append]
    omega
  have h₁ := dropBlanks_length r
  split at h
  · rename_i r' hd
    have h₂ := dropBlanks_length r'
    have h₃ := quotedValue?_length h
    rw [hd, List.length_cons] at h₁
    omega
  · simp at h

def values (inName : Bool) (cs : List Char) : List (List Char) :=
  match cs with
  | [] => []
  | c :: r =>
    if inName then values (isWordOrHyphen c) r
    else
      match _h : attribute? (c :: r) with
      | some (value, rest) => value :: values false rest
      | none => values (isWordOrHyphen c) r
termination_by cs.length
decreasing_by
  · simp
  · exact attribute?_length _h
  · simp

def classes (text : String) : List String :=
  ((values false text.toList).flatMap words).map String.ofList

end UtilityCss.Markup
