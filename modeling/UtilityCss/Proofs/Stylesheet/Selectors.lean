import UtilityCss.Proofs.Number.Plain
import UtilityCss.Proofs.Selector.Shape
import UtilityCss.Proofs.Stylesheet.Distinct
import UtilityCss.Proofs.Stylesheet.Reading

namespace UtilityCss

open Text Stylesheet

namespace Selector

theorem firm_escaped {c : Char} (h : isBlank c = false) : Firm ['\\', c] := by
  have hslash : Mode.bare.cutsAt '\\' = false := by decide
  have hnot : (Mode.bare.after '\\').cutsAt c = false := by simp [Mode.cutsAt, Mode.after, Mode.bare]
  constructor
  · simp only [Contained, scan, hslash, hnot]
    rfl
  · exact ⟨fun hx => (by cases hx), fun _ => h, trivial⟩

theorem firm_escapeChar (leading : Bool) (c : Char) : Firm (escapeChar leading c) := by
  have hspecial : ∀ d ∈ marks, special.contains d = true := by decide
  have hblank : ∀ d ∈ special, isBlank d = false := by decide
  rw [escapeChar]
  split
  · rename_i hd
    rw [Bool.and_eq_true] at hd
    have hplain : Plain [c] := Plain.digits (by simpa using hd.2)
    exact (firm_escaped (by decide)).append (hplain.append (by decide : Plain [' '])).inert.firm
  · split
    · rename_i hs
      exact firm_escaped (hblank c (List.contains_iff_mem.1 hs))
    · rename_i hs
      have hinert : Inert [c] := by
        intro d hd hm
        rw [List.mem_singleton.1 hd] at hm
        exact hs (hspecial c hm)
      exact hinert.firm

theorem firm_flatMap (cs : List Char) : Firm (cs.flatMap (escapeChar false)) := by
  induction cs with
  | nil => exact ⟨rfl, trivial⟩
  | cons c cs ih =>
    rw [List.flatMap_cons]
    exact (firm_escapeChar false c).append ih

theorem firm_escape (name : List Char) : Firm (escape name) := by
  rw [escape.eq_def]
  split
  · exact ⟨rfl, trivial⟩
  · rename_i d r
    have hminus : Inert ['-'] := by decide
    exact hminus.firm.append ((firm_escapeChar true d).append (firm_flatMap r))
  · exact (firm_escapeChar true _).append (firm_flatMap _)

theorem newline_not_mem_escapeChar (leading : Bool) {c : Char} (h : c ≠ '\n') :
    '\n' ∉ escapeChar leading c := by
  rw [escapeChar]
  split
  · simp [h.symm]
  · split <;> simp [h.symm]

theorem newline_not_mem_escape {name : List Char} (h : '\n' ∉ name) : '\n' ∉ escape name := by
  have htail {r : List Char} (hr : '\n' ∉ r) : '\n' ∉ r.flatMap (escapeChar false) := by
    rw [List.mem_flatMap]
    rintro ⟨c, hc, hm⟩
    exact newline_not_mem_escapeChar false (fun he => hr (he ▸ hc)) hm
  rw [escape.eq_def]
  split
  · exact h
  · rename_i d r
    simp only [List.mem_cons, not_or] at h
    have hd := newline_not_mem_escapeChar true (Ne.symm h.2.1)
    simp [hd, htail h.2.2]
  · rename_i c r _
    simp only [List.mem_cons, not_or] at h
    have hc := newline_not_mem_escapeChar true (Ne.symm h.1)
    simp [hc, htail h.2]

theorem plain_states : ∀ s ∈ states, Plain (front s.1) ∧ Plain (back s.1 s.2) := by
  decide +kernel

variable {c : Context}

theorem firm_build (h : Stated c) (token : String) : Firm (build Vocabulary.variants token c).toList := by
  obtain ⟨hfront, hback⟩ := plain_states _ h
  rw [toList_build h]
  exact (hfront.inert.firm.append (firm_escape _)).append hback.inert.firm

theorem newline_not_mem_build (h : Stated c) {token : String} (ht : '\n' ∉ token.toList) :
    '\n' ∉ (build Vocabulary.variants token c).toList := by
  obtain ⟨hfront, hback⟩ := plain_states _ h
  have hf : '\n' ∉ front c.variant := fun hm => hfront _ hm (List.mem_cons_self ..)
  have hb : '\n' ∉ back c.variant c.selector := fun hm => hback _ hm (List.mem_cons_self ..)
  rw [toList_build h]
  simp [hf, hb, newline_not_mem_escape ht]

end Selector

namespace Stylesheet

theorem firm_toggled {s : String} (h : Firm s.toList) (m : Scheme) : Firm (toggled m s).toList := by
  have hparts : Firm (toggleFront m) ∧ Firm (toggleMiddle m) := by
    cases m <;> exact ⟨⟨by decide, by decide⟩, ⟨by decide, by decide⟩⟩
  rw [toList_toggled]
  exact hparts.1.append (h.append (hparts.2.append h))

theorem newline_not_mem_toggled {s : String} (h : '\n' ∉ s.toList) (m : Scheme) :
    '\n' ∉ (toggled m s).toList := by
  have hparts : '\n' ∉ toggleFront m ∧ '\n' ∉ toggleMiddle m := by cases m <;> decide
  rw [toList_toggled]
  simp [h, hparts]

end Stylesheet

end UtilityCss
