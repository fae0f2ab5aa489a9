import UtilityCss.Color.Palette
import UtilityCss.Proofs.Outcome

namespace UtilityCss

open Text Outcome

namespace Color

def Cropped (value : String) : Prop :=
  ∃ r g b, value.toList = ['#', r, g, b, '\n'] ∧ [r, g, b].all isHexDigit = true

theorem hexDigits?_eq_some {value ds : List Char} (h : hexDigits? value = some ds) :
    value = '#' :: ds ∧ (dropFinalNewline ds).all isHexDigit = true ∧
      ((dropFinalNewline ds).length = 3 ∨ (dropFinalNewline ds).length = 6) := by
  rw [hexDigits?.eq_def] at h
  split at h
  · dsimp only at h
    split at h
    · rename_i hd
      cases h
      simpa using hd
    · cases h
  · cases h

theorem fails_withAlpha_of_cropped {value : String} (h : Cropped value) (alpha : Number.Binary64) :
    Fails (withAlpha value alpha) := by
  obtain ⟨r, g, b, hv, hall⟩ := h
  have hd : hexDigits? value.toList = some [r, g, b, '\n'] := by
    rw [hv]
    simp [hexDigits?, dropFinalNewline, hall]
  rw [withAlpha, hd]
  exact fails_error _

theorem dropFinalNewline_cases (cs : List Char) :
    dropFinalNewline cs = cs ∨ cs.getLast? = some '\n' ∧ dropFinalNewline cs = cs.dropLast := by
  rw [dropFinalNewline]
  split
  · rename_i h
    exact Or.inr ⟨h, rfl⟩
  · exact Or.inl rfl

theorem cropped_of_length {ds : List Char} (hall : (dropFinalNewline ds).all isHexDigit = true)
    (hlen : (dropFinalNewline ds).length = 3 ∨ (dropFinalNewline ds).length = 6)
    (hthree : ds.length ≠ 3) (hsix : ds.length < 6) :
    ∃ r g b, ds = [r, g, b, '\n'] ∧ [r, g, b].all isHexDigit = true := by
  rcases dropFinalNewline_cases ds with he | ⟨hlast, he⟩
  · rw [he] at hlen
    omega
  -- Without its line feed the text has three digits, as six would leave it too long.
  · rw [he] at hall hlen
    have hsplit : ds.dropLast ++ ['\n'] = ds := List.dropLast_append_getLast? _ hlast
    have hlong : ds.dropLast.length = ds.length - 1 := List.length_dropLast
    obtain ⟨r, g, b, hrgb⟩ := List.length_eq_three.1 (show ds.dropLast.length = 3 by omega)
    rw [hrgb] at hall hsplit
    exact ⟨r, g, b, hsplit.symm, hall⟩

theorem fails_withAlpha_iff (value : String) (alpha : Number.Binary64) :
    Fails (withAlpha value alpha) ↔ Cropped value := by
  refine ⟨fun h => ?_, fun h => fails_withAlpha_of_cropped h alpha⟩
  rw [withAlpha] at h
  split at h
  · exact absurd h (not_fails_ok _)
  · exact absurd h (not_fails_ok _)
  · rename_i ds hshort hlong hd
    obtain ⟨hv, hall, hlen⟩ := hexDigits?_eq_some hd
    have hthree : ds.length ≠ 3 := by
      intro hl
      obtain ⟨r, g, b, hds⟩ := List.length_eq_three.1 hl
      exact hshort r g b hds
    have hsix : ds.length < 6 := by
      by_contra hl
      rcases ds with _ | ⟨r, _ | ⟨r', _ | ⟨g, _ | ⟨g', _ | ⟨b, _ | ⟨b', rest⟩⟩⟩⟩⟩⟩
      case cons.cons.cons.cons.cons.cons => exact hlong r r' g g' b b' rest rfl
      all_goals simp at hl
    obtain ⟨r, g, b, hds, hrgb⟩ := cropped_of_length hall hlen hthree hsix
    exact ⟨r, g, b, hds ▸ hv, hrgb⟩
  · exact absurd h (not_fails_ok _)

end Color

namespace Palette

variable (p : Palette String) (key : String)

structure Refuses : Prop where
  bare : ¬ (key.toList.head? = some '[' ∧ key.toList.getLast? = some ']')
  unknown : p.contains key = false
  cropped : ∃ name suffix color, cut? '/' key.toList = some (name, suffix) ∧
    p.base? (String.ofList name) = some color ∧ (opacity? suffix).isSome = true ∧ Color.Cropped color

theorem fails_resolve_iff : Fails (p.resolve key) ↔ p.Refuses key := by
  rw [resolve]
  dsimp only
  constructor
  · intro h
    split at h
    · exact absurd h (not_fails_ok _)
    split at h
    · exact absurd h (not_fails_ok _)
    rename_i hbare
    split at h
    · exact absurd h (not_fails_ok _)
    rename_i hunknown
    split at h
    · exact absurd h (not_fails_ok _)
    rename_i name suffix hcut
    split at h
    · rename_i color alpha hcolor halpha
      constructor
      · simpa using hbare
      · simpa using hunknown
      · refine ⟨name, suffix, color, hcut, hcolor, ?_, (Color.fails_withAlpha_iff color alpha).1 h⟩
        rw [halpha]
        rfl
    · exact absurd h (not_fails_ok _)
  · rintro ⟨hbare, hunknown, name, suffix, color, hcut, hcolor, halpha, hcropped⟩
    obtain ⟨alpha, halpha⟩ := Option.isSome_iff_exists.1 halpha
    have hne : ¬ key.toList.isEmpty = true := by
      intro he
      rw [List.isEmpty_iff.1 he] at hcut
      cases hcut
    rw [if_neg hne, if_neg (by simpa using hbare), if_neg (by simp [hunknown]), hcut]
    dsimp only
    rw [hcolor, halpha]
    exact (Color.fails_withAlpha_iff color alpha).2 hcropped

end Palette

end UtilityCss
