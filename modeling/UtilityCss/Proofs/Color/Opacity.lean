import UtilityCss.Proofs.Refusal.Color
import UtilityCss.Proofs.Table
import UtilityCss.Proofs.Text.Ascii
import UtilityCss.Proofs.Text.Pieces

namespace UtilityCss

open Text Number

namespace Color

def Nibble (c : Char) (n : Nat) : Prop :=
  "0123456789abcdef".toList[n]? = some c.toLower

/-- The red, green and blue that hexadecimal digits denote: two digits for each, or one that counts twice. -/
inductive Denotes : List Char → Nat → Nat → Nat → Prop
  | pairs {r r' g g' b b' : Char} {m m' n n' q q' : Nat} (hr : Nibble r m) (hr' : Nibble r' m') (hg : Nibble g n)
      (hg' : Nibble g' n') (hb : Nibble b q) (hb' : Nibble b' q') :
      Denotes [r, r', g, g', b, b'] (16 * m + m') (16 * n + n') (16 * q + q')
  | single {r g b : Char} {x y z : Nat} (h : Denotes [r, r, g, g, b, b] x y z) : Denotes [r, g, b] x y z

theorem Nibble.lt {c : Char} {n : Nat} (h : Nibble c n) : n < 16 :=
  (List.getElem?_eq_some_iff.1 h).1

theorem Nibble.toNat_lt {c : Char} {n : Nat} (h : Nibble c n) : c.toNat < 128 := by
  have hdigits : ∀ d ∈ "0123456789abcdef".toList, d.toNat < 128 := by decide
  have hlower : c.toLower.toNat < 128 := hdigits _ (List.mem_of_getElem? h)
  by_cases hc : c.isUpper = true
  · have hrange : 'A'.val ≤ c.val ∧ c.val ≤ 'Z'.val := of_decide_eq_true hc
    exact Nat.lt_of_le_of_lt hrange.2 (by decide)
  · have he : c.toLower = c := dif_neg fun hrange => hc (decide_eq_true hrange)
    rwa [he] at hlower

theorem nibble_iff (c : Char) (n : Nat) : Nibble c n ↔ isHexDigit c = true ∧ n = hexValue c := by
  constructor
  · intro h
    have hall : ∀ k : Fin 128, ∀ n : Fin 16, Nibble (Char.ofNat k) n →
        isHexDigit (Char.ofNat k) = true ∧ n = hexValue (Char.ofNat k) := by
      unfold Nibble
      decide +kernel
    exact ascii_induction (P := fun c => ∀ n : Fin 16, Nibble c n → isHexDigit c = true ∧ n = hexValue c) hall
      h.toNat_lt ⟨n, h.lt⟩ h
  · rintro ⟨hx, rfl⟩
    have hall : ∀ k : Fin 128, isHexDigit (Char.ofNat k) = true → Nibble (Char.ofNat k) (hexValue (Char.ofNat k)) := by
      unfold Nibble
      decide +kernel
    exact ascii_induction (P := fun c => isHexDigit c = true → Nibble c (hexValue c)) hall
      (toNat_lt_of_isHexDigit hx) hx

section Denotes

variable {cs ds : List Char} {x y z : Nat}

theorem Denotes.le (h : Denotes ds x y z) : x ≤ 255 ∧ y ≤ 255 ∧ z ≤ 255 := by
  induction h with
  | pairs hr hr' hg hg' hb hb' =>
    have := hr.lt
    have := hr'.lt
    have := hg.lt
    have := hg'.lt
    have := hb.lt
    have := hb'.lt
    omega
  | single _ ih => exact ih

theorem Nibble.unique {c : Char} {m n : Nat} (hm : Nibble c m) (hn : Nibble c n) : m = n :=
  ((nibble_iff c m).1 hm).2.trans ((nibble_iff c n).1 hn).2.symm

theorem Denotes.unique {x' y' z' : Nat} (h : Denotes ds x y z) (h' : Denotes ds x' y' z') :
    x = x' ∧ y = y' ∧ z = z' := by
  induction h with
  | pairs hr hr' hg hg' hb hb' =>
    cases h' with
    | pairs kr kr' kg kg' kb kb' =>
      rw [hr.unique kr, hr'.unique kr', hg.unique kg, hg'.unique kg', hb.unique kb, hb'.unique kb']
      exact ⟨rfl, rfl, rfl⟩
  | single _ ih =>
    cases h' with
    | single h' => exact ih h'

theorem Denotes.of_toLower_eq (h : Denotes cs x y z) (he : cs.map Char.toLower = ds.map Char.toLower) :
    Denotes ds x y z := by
  have hnibble {c d : Char} {n : Nat} (hn : Nibble c n) (hc : c.toLower = d.toLower) : Nibble d n := by
    rwa [Nibble, ← hc]
  induction h generalizing ds with
  | pairs hr hr' hg hg' hb hb' =>
    simp only [List.map_cons, List.map_nil, eq_comm (b := ds.map _), List.map_eq_cons_iff, List.map_eq_nil_iff] at he
    obtain ⟨_, _, rfl, er, _, _, rfl, er', _, _, rfl, eg, _, _, rfl, eg', _, _, rfl, eb, _, _, rfl, eb', rfl⟩ := he
    exact .pairs (hnibble hr er.symm) (hnibble hr' er'.symm) (hnibble hg eg.symm) (hnibble hg' eg'.symm)
      (hnibble hb eb.symm) (hnibble hb' eb'.symm)
  | single _ ih =>
    simp only [List.map_cons, List.map_nil, eq_comm (b := ds.map _), List.map_eq_cons_iff, List.map_eq_nil_iff] at he
    obtain ⟨_, _, rfl, er, _, _, rfl, eg, _, _, rfl, eb, rfl⟩ := he
    exact .single (ih (by simp [er, eg, eb]))

theorem denotes_pairs {r r' g g' b b' : Char} (h : [r, r', g, g', b, b'].all isHexDigit = true) :
    Denotes [r, r', g, g', b, b'] (channel r r') (channel g g') (channel b b') := by
  have hvalue {c : Char} (hc : isHexDigit c = true) : Nibble c (hexValue c) := (nibble_iff c _).2 ⟨hc, rfl⟩
  simp only [List.all_cons, List.all_nil, Bool.and_eq_true, Bool.and_true] at h
  obtain ⟨hr, hr', hg, hg', hb, hb'⟩ := h
  simp only [channel, Nat.mul_comm _ 16]
  exact .pairs (hvalue hr) (hvalue hr') (hvalue hg) (hvalue hg') (hvalue hb) (hvalue hb')

theorem exists_denotes (hall : ds.all isHexDigit = true) (hlen : ds.length = 3 ∨ ds.length = 6) :
    ∃ x y z, Denotes ds x y z := by
  rcases hlen with hlen | hlen
  · obtain ⟨r, g, b, rfl⟩ := List.length_eq_three.1 hlen
    exact ⟨_, _, _, .single (denotes_pairs (by simpa using hall))⟩
  · match ds, hlen with
    | [r, r', g, g', b, b'], _ => exact ⟨_, _, _, denotes_pairs hall⟩

theorem Denotes.digits (h : Denotes ds x y z) : (ds.length = 3 ∨ ds.length = 6) ∧ ∀ c ∈ ds, ∃ n, Nibble c n := by
  cases h with
  | pairs hr hr' hg hg' hb hb' =>
    refine ⟨.inr rfl, ?_⟩
    simp only [List.forall_mem_cons]
    exact ⟨⟨_, hr⟩, ⟨_, hr'⟩, ⟨_, hg⟩, ⟨_, hg'⟩, ⟨_, hb⟩, ⟨_, hb'⟩, nofun⟩
  | single h =>
    cases h with
    | pairs hr _ hg _ hb _ =>
      refine ⟨.inl rfl, ?_⟩
      simp only [List.forall_mem_cons]
      exact ⟨⟨_, hr⟩, ⟨_, hg⟩, ⟨_, hb⟩, nofun⟩

theorem exists_denotes_iff : (∃ x y z, Denotes ds x y z) ↔
    (ds.length = 3 ∨ ds.length = 6) ∧ ∀ c ∈ ds, ∃ n, Nibble c n := by
  constructor
  · rintro ⟨x, y, z, h⟩
    exact h.digits
  · rintro ⟨hlen, hall⟩
    refine exists_denotes (List.all_eq_true.2 fun c hc => ?_) hlen
    obtain ⟨n, hn⟩ := hall c hc
    exact ((nibble_iff c n).1 hn).1

theorem hexDigits?_of_all (hall : ds.all isHexDigit = true) (hlen : ds.length = 3 ∨ ds.length = 6) :
    hexDigits? ('#' :: ds) = some ds := by
  have hdrop : dropFinalNewline ds = ds := by
    refine if_neg fun hlast => ?_
    have hfeed := List.all_eq_true.1 hall _ (List.mem_of_getLast? hlast)
    exact absurd hfeed (by decide)
  rw [hexDigits?, hdrop, if_pos]
  simpa [hall] using hlen

theorem withAlpha_of_denotes (h : Denotes ds x y z) {value : String} (hv : value.toList = '#' :: ds)
    (alpha : Binary64) : withAlpha value alpha = .ok (some (rgba x y z alpha)) := by
  have hchannel {c d : Char} {m n : Nat} (hc : Nibble c m) (hd : Nibble d n) :
      channel c d = 16 * m + n ∧ isHexDigit c = true ∧ isHexDigit d = true := by
    obtain ⟨hxc, rfl⟩ := (nibble_iff c m).1 hc
    obtain ⟨hxd, rfl⟩ := (nibble_iff d n).1 hd
    exact ⟨by rw [channel, Nat.mul_comm], hxc, hxd⟩
  cases h with
  | pairs hr hr' hg hg' hb hb' =>
    obtain ⟨er, xr, xr'⟩ := hchannel hr hr'
    obtain ⟨eg, xg, xg'⟩ := hchannel hg hg'
    obtain ⟨eb, xb, xb'⟩ := hchannel hb hb'
    rw [withAlpha, hv, hexDigits?_of_all (by simp [xr, xr', xg, xg', xb, xb']) (.inr rfl)]
    dsimp only
    rw [er, eg, eb]
  | single h =>
    cases h with
    | pairs hr hr' hg hg' hb hb' =>
      obtain ⟨er, xr, _⟩ := hchannel hr hr'
      obtain ⟨eg, xg, _⟩ := hchannel hg hg'
      obtain ⟨eb, xb, _⟩ := hchannel hb hb'
      rw [withAlpha, hv, hexDigits?_of_all (by simp [xr, xg, xb]) (.inl rfl)]
      dsimp only
      rw [er, eg, eb]

end Denotes

theorem withAlpha_spec {value : String} (hv : value.toList.getLast? ≠ some '\n') (alpha : Binary64) :
    ∃ o, withAlpha value alpha = .ok o ∧ ∀ text, o = some text ↔
      ∃ ds r g b, value.toList = '#' :: ds ∧ Denotes ds r g b ∧ text = rgba r g b alpha := by
  cases hd : hexDigits? value.toList with
  | none =>
    have hnone : withAlpha value alpha = .ok none := by rw [withAlpha, hd]
    refine ⟨none, hnone, fun text => iff_of_false (Option.some_ne_none text).symm ?_⟩
    rintro ⟨ds, r, g, b, hds, hden, _⟩
    rw [withAlpha_of_denotes hden hds] at hnone
    cases hnone
  | some ds =>
    obtain ⟨hds, hall, hlen⟩ := hexDigits?_eq_some hd
    have hdrop : dropFinalNewline ds = ds := by
      rcases dropFinalNewline_cases ds with he | ⟨hlast, _⟩
      · exact he
      · rw [hds, List.getLast?_cons, hlast] at hv
        exact absurd rfl hv
    rw [hdrop] at hall hlen
    obtain ⟨r, g, b, hden⟩ := exists_denotes hall hlen
    have hsome := withAlpha_of_denotes hden hds alpha
    refine ⟨_, hsome, fun text => ⟨?_, ?_⟩⟩
    · rintro ⟨⟩
      exact ⟨ds, r, g, b, hds, hden, rfl⟩
    · rintro ⟨ds', r', g', b', hds', hden', rfl⟩
      rw [withAlpha_of_denotes hden' hds'] at hsome
      exact (Except.ok.inj hsome).symm

end Color

namespace Palette

variable {p : Palette String} {k suffix : String}

theorem base?_eq (h : ∀ v ∈ p.values, v ≠ "") (k : String) :
    p.base? k = (p.get? k).or (p.get? (k ++ "-500")) := by
  have hshade : shadeName k defaultShade = k ++ "-500" := by
    rw [shadeName, defaultShade, String.append_assoc]
    rfl
  rw [base?, hshade]
  cases hk : p.get? k with
  | none => rfl
  | some v =>
    have hmem : v ∈ p.values := List.mem_map_of_mem ((Table.get?_eq_some_iff p k v).1 hk)
    have hv : ¬ v.isEmpty = true := by simpa using h v hmem
    dsimp only
    rw [if_neg hv, Option.some_or]

theorem opacity?_eq_some_iff {cs : List Char} {alpha : Binary64} : opacity? cs = some alpha ↔
    ∃ x, Binary64.ofText? cs = some x ∧ (Binary64.zero false).le x = true ∧ x.le (.ofNat 100) = true ∧
      alpha = x.scale (1, 100) := by
  rw [opacity?, Option.bind_eq_some_iff]
  refine exists_congr fun x => and_congr_right fun _ => ?_
  rw [Option.ite_none_right_eq_some, Bool.and_eq_true, and_assoc, Option.some_inj, eq_comm (b := alpha)]

theorem resolve_slash (hslash : '/' ∉ k.toList) (hbracket : k.toList.head? ≠ some '[') (hk : k ≠ "")
    (hname : p.contains (k ++ "/" ++ suffix) = false) :
    p.resolve (k ++ "/" ++ suffix) =
      match p.base? k, opacity? suffix.toList with
      | some color, some alpha => Color.withAlpha color alpha
      | _, _ => .ok none := by
  have hkey : (k ++ "/" ++ suffix).toList = k.toList ++ '/' :: suffix.toList := by simp
  have hne : k.toList ≠ [] := by simpa using hk
  rw [resolve, if_neg, if_neg, if_neg, hkey, cut?_append hslash]
  · change (match p.base? (String.ofList k.toList), opacity? suffix.toList with
      | some color, some alpha => Color.withAlpha color alpha
      | _, _ => .ok none) = _
    rw [String.ofList_toList]
  · simp [hname]
  · rw [hkey, List.head?_append_of_ne_nil _ hne]
    simp [hbracket]
  · simp [hkey]

/-- A reference `k/suffix` gives a colour exactly when the colour of `k`, or the default shade of `k`, is
hexadecimal and the suffix a percentage, and never fails. Six digits denote three numbers below 256 and three
digits what they denote when each is doubled, in either case. -/
theorem opacity_keeps_color (hvalues : ∀ v ∈ p.values, v ≠ "" ∧ v.toList.getLast? ≠ some '\n') (hk : k ≠ "")
    (hslash : '/' ∉ k.toList) (hbracket : k.toList.head? ≠ some '[')
    (hname : p.contains (k ++ "/" ++ suffix) = false) :
    (∃ o, p.resolve (k ++ "/" ++ suffix) = .ok o ∧ ∀ text, o = some text ↔ ∃ c ds r g b x,
        (p.get? k).or (p.get? (k ++ "-500")) = some c ∧ c.toList = '#' :: ds ∧ Color.Denotes ds r g b ∧
          Binary64.ofText? suffix.toList = some x ∧ (Binary64.zero false).le x = true ∧ x.le (.ofNat 100) = true ∧
          text = "rgba(" ++ toString r ++ ", " ++ toString g ++ ", " ++ toString b ++ ", " ++
            Color.alphaText (x.scale (1, 100)) ++ ")") ∧
      (∀ ds, (∃ r g b, Color.Denotes ds r g b) ↔
        (ds.length = 3 ∨ ds.length = 6) ∧ ∀ c ∈ ds, ∃ n, Color.Nibble c n) ∧
      (∀ ds r g b, Color.Denotes ds r g b → (r ≤ 255 ∧ g ≤ 255 ∧ b ≤ 255) ∧
        (∀ r' g' b', Color.Denotes ds r' g' b' → r = r' ∧ g = g' ∧ b = b') ∧
          ∀ ds', ds.map Char.toLower = ds'.map Char.toLower → Color.Denotes ds' r g b) := by
  have hbase := base?_eq (fun v hv => (hvalues v hv).1) k
  refine ⟨?_, fun ds => Color.exists_denotes_iff, fun ds r g b h => ⟨h.le, fun r' g' b' h' => h.unique h',
    fun ds' he => h.of_toLower_eq he⟩⟩
  rw [resolve_slash hslash hbracket hk hname, hbase]
  cases hc : (p.get? k).or (p.get? (k ++ "-500")) with
  | none => exact ⟨none, rfl, fun text => by simp⟩
  | some c =>
    cases ha : opacity? suffix.toList with
    | none =>
      refine ⟨none, rfl, fun text => iff_of_false nofun ?_⟩
      rintro ⟨_, _, _, _, _, x, _, _, _, hx, hlow, hhigh, _⟩
      rw [opacity?_eq_some_iff.2 ⟨x, hx, hlow, hhigh, rfl⟩] at ha
      cases ha
    | some alpha =>
      obtain ⟨x, hx, hlow, hhigh, rfl⟩ := opacity?_eq_some_iff.1 ha
      have hmem : c ∈ p.values := by
        rcases Option.or_eq_some_iff.1 hc with h | ⟨_, h⟩
        · exact List.mem_map_of_mem ((Table.get?_eq_some_iff p _ c).1 h)
        · exact List.mem_map_of_mem ((Table.get?_eq_some_iff p _ c).1 h)
      obtain ⟨o, ho, hspec⟩ := Color.withAlpha_spec (hvalues c hmem).2 (x.scale (1, 100))
      refine ⟨o, ho, fun text => (hspec text).trans ⟨?_, ?_⟩⟩
      · rintro ⟨ds, r, g, b, hds, hden, rfl⟩
        exact ⟨c, ds, r, g, b, x, rfl, hds, hden, hx, hlow, hhigh, rfl⟩
      · rintro ⟨_, ds, r, g, b, x', ⟨⟩, hds, hden, hx', _, _, rfl⟩
        obtain rfl : x = x' := Option.some_inj.1 (hx.symm.trans hx')
        exact ⟨ds, r, g, b, hds, hden, rfl⟩

def tinted : Palette String :=
  .ofList [("a", "#fA0"), ("blue-500", "#1B2c3d"), ("blue-600", "blue")]

theorem opacity_keeps_color_tinted : (∀ v ∈ tinted.values, v ≠ "" ∧ v.toList.getLast? ≠ some '\n') ∧
    tinted.resolve "blue/50" = .ok (some "rgba(27, 44, 61, 0.5)") ∧
    tinted.resolve "a/1e1" = .ok (some "rgba(255, 170, 0, 0.1)") ∧ tinted.resolve "a/nan" = .ok none := by
  have hvalues : ∀ v ∈ tinted.values, v ≠ "" ∧ v.toList.getLast? ≠ some '\n' := by decide
  have hdigits {c : Char} (n : Nat) (h : "0123456789abcdef".toList[n]? = some c.toLower) : Color.Nibble c n := h
  have hblue : Color.Denotes "1B2c3d".toList 27 44 61 :=
    .pairs (hdigits 1 rfl) (hdigits 11 rfl) (hdigits 2 rfl) (hdigits 12 rfl) (hdigits 3 rfl) (hdigits 13 rfl)
  have ha : Color.Denotes "fA0".toList 255 170 0 :=
    .single (.pairs (hdigits 15 rfl) (hdigits 15 rfl) (hdigits 10 rfl) (hdigits 10 rfl) (hdigits 0 rfl) (hdigits 0 rfl))
  have hten : Binary64.ofText? "1e1".toList = some (.ofNat 10) := by decide +kernel
  have hfifty : Binary64.ofText? "50".toList = some (.ofNat 50) := by decide +kernel
  have hplain : "blue" ≠ "" ∧ "a" ≠ "" := by decide
  have hfresh : tinted.contains ("blue" ++ "/" ++ "50") = false ∧ tinted.contains ("a" ++ "/" ++ "1e1") = false ∧
      tinted.contains ("a" ++ "/" ++ "nan") = false := by decide
  obtain ⟨⟨_, hr, hspec⟩, _⟩ := opacity_keeps_color hvalues hplain.1 (by decide) (by decide) hfresh.1
  obtain ⟨⟨_, hr', hspec'⟩, _⟩ := opacity_keeps_color hvalues hplain.2 (by decide) (by decide) hfresh.2.1
  obtain ⟨⟨o, hr'', hspec''⟩, _⟩ := opacity_keeps_color hvalues hplain.2 (by decide) (by decide) hfresh.2.2
  refine ⟨hvalues, ?_, ?_, ?_⟩
  · refine hr.trans (congrArg _ ((hspec _).2 ⟨"#1B2c3d", _, _, _, _, _, by decide, rfl, hblue, hfifty, ?_⟩))
    decide +kernel
  · refine hr'.trans (congrArg _ ((hspec' _).2 ⟨"#fA0", _, _, _, _, _, by decide, rfl, ha, hten, ?_⟩))
    decide +kernel
  · refine hr''.trans (congrArg _ (Option.eq_none_iff_forall_ne_some.2 fun text h => ?_))
    obtain ⟨_, _, _, _, _, x, _, _, _, hx, hle, _⟩ := (hspec'' text).1 h
    have hnan : Binary64.ofText? "nan".toList = some .nan := by decide +kernel
    obtain rfl : x = .nan := Option.some_inj.1 (hx.symm.trans hnan)
    cases hle

end Palette

end UtilityCss
