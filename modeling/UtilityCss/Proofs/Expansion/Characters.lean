import Mathlib.Data.List.Infix
import UtilityCss.Proofs.Expansion.Origins
import UtilityCss.Proofs.Utility.Dispatch

namespace UtilityCss

open Text

namespace Token

theorem suffix_splitSign (s : String) : (splitSign s).2.toList <:+ s.toList := by
  rcases unsigned_or_minus s with h | ⟨t, rfl⟩
  · rw [splitSign_of_unsigned h]
  · rw [splitSign_minus, String.toList_append]
    exact List.suffix_append _ _

theorem suffix_base (w : Words) (raw : String) : (parse w raw).base.toList <:+ raw.toList := by
  rw [parse_eq]
  obtain ⟨front, hf, _⟩ := readWords_front w (pieces ':' (splitSign raw).2) .none
  have hread := suffix_intercalate ":" front (read w (splitSign raw).2).2
  rw [read, ← hf, intercalate_pieces rfl] at hread
  exact ((suffix_splitSign _).trans hread).trans (suffix_splitSign raw)

end Token

theorem Registry.suffix_key {r : Registry} {base name key : String} (h : r.split? base = some (name, key)) :
    key.toList <:+ base.toList :=
  (split?_eq_some_iff.1 h).2.1.suffix

theorem not_mem_of_suffix {c : Char} {s t : String} (h : s.toList <:+ t.toList) (ht : c ∉ t.toList) :
    c ∉ s.toList :=
  fun hs => ht (h.subset hs)

theorem Value.newline_not_mem_bracket? {key v : String} (h : bracket? key = some v) (hk : '\n' ∉ key.toList) :
    '\n' ∉ v.toList := by
  rw [bracket?] at h
  split at h
  · cases h
    rw [String.toList_ofList, replaceChar, List.mem_flatMap]
    rintro ⟨d, hd, hm⟩
    split at hm
    · cases List.mem_singleton.1 hm
    · rw [List.mem_singleton.1 hm] at hk
      exact hk (List.mem_of_mem_drop (List.mem_of_mem_dropLast hd))
  · cases h

theorem mem_of_mem_cut? {sep c : Char} {cs front back : List Char} (h : cut? sep cs = some (front, back))
    (hc : c ∈ back) : c ∈ cs := by
  induction cs generalizing front with
  | nil => cases h
  | cons d r ih =>
    rw [cut?] at h
    split at h
    · cases h
      exact List.mem_cons_of_mem d hc
    · obtain ⟨⟨front', back'⟩, hr, he⟩ := Option.map_eq_some_iff.1 h
      cases he
      exact List.mem_cons_of_mem d (ih hr)

theorem Family.newline_not_mem_side {key width : String} {properties : List String}
    (h : side? key = some (properties, width)) (hk : '\n' ∉ key.toList) : '\n' ∉ width.toList := by
  rw [side?] at h
  obtain ⟨found, _, he⟩ := Option.map_eq_some_iff.1 h
  have hw := (Prod.mk.inj he).2
  subst hw
  split
  · rename_i side back hcut
    rw [String.toList_ofList]
    exact fun hm => hk (mem_of_mem_cut? hcut hm)
  · exact (by decide : '\n' ∉ "".toList)

theorem Family.newline_not_mem_literals {family : Family} {key v : String} (h : v ∈ family.literals key)
    (hk : '\n' ∉ key.toList) : '\n' ∉ v.toList := by
  have hb : v ∈ (Value.bracket? key).toList → '\n' ∉ v.toList := fun hm =>
    Value.newline_not_mem_bracket? (Option.mem_toList.1 hm) hk
  cases family with
  | border =>
    rcases List.mem_append.1 h with h | h
    · exact hb h
    · obtain ⟨p, hp, hv⟩ := Option.bind_eq_some_iff.1 (Option.mem_toList.1 h)
      exact Value.newline_not_mem_bracket? hv (newline_not_mem_side hp hk)
  | columnSpan | gradientDirection | transition => cases h
  | _ => exact hb h

theorem newline_not_mem_wordsOf {s word : String} (h : word ∈ wordsOf s) : '\n' ∉ word.toList := by
  obtain ⟨w, hw, rfl⟩ := List.mem_map.1 h
  rw [String.toList_ofList]
  intro hm
  have hb := not_of_mem_splitOnP (List.mem_filter.1 hw).1 '\n' hm
  revert hb
  decide

namespace Resolver

attribute [local irreducible] Token.parse

variable {r : Resolver}

theorem newline_not_mem_classes {base c : String} {classes : List String}
    (h : r.presetClasses? base = some classes) (hc : c ∈ classes) : '\n' ∉ c.toList := by
  rw [presetClasses?] at h
  split at h
  · cases h
    exact newline_not_mem_wordsOf hc
  · obtain ⟨e, _, he⟩ := Option.bind_eq_some_iff.1 h
    cases e with
    | preset text =>
      cases he
      exact newline_not_mem_wordsOf hc
    | declaration d => cases he
    | group g => cases he

theorem Reads.newline_not_mem_key {seen : List String} {token key : String} {family : Family}
    (h : r.Reads seen token family key) (ht : '\n' ∉ token.toList) : '\n' ∉ key.toList := by
  induction h with
  | own hn hp hd hs hf =>
    exact not_mem_of_suffix (Registry.suffix_key hs) (not_mem_of_suffix (Token.suffix_base _ _) ht)
  | inside he hc h ih => exact ih (newline_not_mem_classes he.preset hc)

end Resolver

end UtilityCss
