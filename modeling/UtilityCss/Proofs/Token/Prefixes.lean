import UtilityCss.Proofs.Text.Pieces
import UtilityCss.Proofs.Token.Words

namespace UtilityCss

namespace Text

theorem pieces_cons {p : String} (h : ':' ∉ p.toList) (s : String) :
    pieces ':' (p ++ ":" ++ s) = p :: pieces ':' s := by
  have hc : (p ++ ":" ++ s).toList = p.toList ++ ':' :: s.toList := by simp
  rw [pieces, hc, List.splitOn_append_cons_self_of_not_mem h, List.map_cons, String.ofList_toList]
  rfl

theorem pieces_minus (s : String) : ∃ first rest, pieces ':' ("-" ++ s) = ("-" ++ first) :: rest := by
  have hc : ("-" ++ s).toList = '-' :: s.toList := by simp
  obtain ⟨first, rest, hs⟩ := List.exists_cons_of_ne_nil (List.splitOn_ne_nil ':' s.toList)
  refine ⟨String.ofList first, rest.map String.ofList, ?_⟩
  rw [pieces, hc, List.splitOn_cons_eq_if_modifyHead, if_neg (by decide), hs]
  rw [List.modifyHead_cons, List.map_cons]
  congr 1
  rw [← String.toList_inj]
  simp

end Text

namespace Token

open Text

def prefixed (words : List String) (s : String) : String :=
  words.foldr (fun p s => p ++ ":" ++ s) s

def Unsigned (s : String) : Prop :=
  s.toList.head? ≠ some '-'

instance (s : String) : Decidable (Unsigned s) :=
  inferInstanceAs (Decidable (_ ≠ _))

theorem splitSign_of_unsigned {s : String} (h : Unsigned s) : splitSign s = (false, s) := by
  rw [splitSign]
  split
  · rename_i r hr
    exact absurd (by rw [hr]; rfl) h
  · rfl

theorem splitSign_minus (s : String) : splitSign ("-" ++ s) = (true, s) := by
  have hc : ("-" ++ s).toList = '-' :: s.toList := by simp
  rw [splitSign, hc]
  simp only [String.ofList_toList]

theorem unsigned_or_minus (s : String) : Unsigned s ∨ ∃ t, s = "-" ++ t := by
  rw [Unsigned]
  cases hs : s.toList with
  | nil => exact .inl nofun
  | cons c r =>
    by_cases hc : c = '-'
    · refine .inr ⟨String.ofList r, ?_⟩
      rw [← String.toList_inj, hs, hc]
      simp
    · exact .inl fun he => hc (Option.some.inj he)

theorem length_splitSign_le (s : String) : (splitSign s).2.length ≤ s.length := by
  rcases unsigned_or_minus s with h | ⟨t, rfl⟩
  · have hs : (splitSign s).2 = s := by rw [splitSign_of_unsigned h]
    exact Nat.le_of_eq (congrArg String.length hs)
  · rw [splitSign_minus, String.length_append]
    exact Nat.le_add_left _ _

variable {w : Words}

def settingOf (w : Words) (words : List String) : Setting :=
  words.foldl (fun s p => (s.read? w p).getD s) .none

theorem readWords_append (words : List String) {rest : List String} (hr : rest ≠ [])
    (hk : ∀ p ∈ words, w.Known p) (s : Setting) :
    readWords w s (words ++ rest) = readWords w (words.foldl (fun s p => (s.read? w p).getD s) s) rest := by
  induction words generalizing s with
  | nil => rfl
  | cons p words ih =>
    have hp : w.Known p := hk p (List.mem_cons_self ..)
    have htail : words ++ rest ≠ [] := fun he => hr (List.append_eq_nil_iff.1 he).2
    obtain ⟨next, more, he⟩ := List.exists_cons_of_ne_nil htail
    cases hs : s.read? w p with
    | none => exact absurd hp ((Setting.read?_eq_none_iff w s p).1 hs)
    | some s' =>
      have hi := ih (fun q hq => hk q (List.mem_cons_of_mem _ hq)) s'
      rw [he] at hi
      rw [List.cons_append, he, readWords, hs, List.foldl_cons, hs]
      exact hi

theorem variant_settingOf {words : List String} (h : ∀ p ∈ words, p ∉ w.variants) :
    (settingOf w words).variant = none := by
  have hfold : ∀ s : Setting,
      (words.foldl (fun s p => (s.read? w p).getD s) s).variant = s.variant := by
    induction words with
    | nil => exact fun s => rfl
    | cons p words ih =>
      intro s
      have hp := Setting.variant_read? (h p (List.mem_cons_self ..)) s
      rw [List.foldl_cons, ih (fun q hq => h q (List.mem_cons_of_mem _ hq)), hp]
  exact hfold .none

theorem pieces_prefixed {words : List String} (h : ∀ p ∈ words, ':' ∉ p.toList) (s : String) :
    pieces ':' (prefixed words s) = words ++ pieces ':' s := by
  induction words with
  | nil => rfl
  | cons p words ih =>
    have hi := ih fun q hq => h q (List.mem_cons_of_mem _ hq)
    rw [prefixed, List.foldr_cons, ← prefixed, pieces_cons (h p (List.mem_cons_self ..)), hi]
    rfl

theorem unsigned_prefixed {p : String} {words : List String} (hp : Unsigned p) (s : String) :
    Unsigned (prefixed (p :: words) s) := by
  rw [prefixed, List.foldr_cons, Unsigned]
  cases hc : p.toList with
  | nil => simp [hc]
  | cons c r =>
    rw [Unsigned, hc] at hp
    simpa [hc] using hp

def read (w : Words) (body : String) : Setting × List String :=
  readWords w .none (pieces ':' body)

def named (w : Words) (body : String) : Bool × String :=
  splitSign (":".intercalate (read w body).2)

theorem parse_eq (c : String) :
    parse w c = ⟨c, (named w (splitSign c).2).2, (splitSign c).1 || (named w (splitSign c).2).1,
      (read w (splitSign c).2).1.breakpoint, (read w (splitSign c).2).1.variant,
      (read w (splitSign c).2).1.mode⟩ := by
  rw [parse, named, read, Setting.none]

def SignAtBase (w : Words) (c : String) : Prop :=
  ¬ Unsigned c → c = "-" ++ (parse w c).base

theorem length_intercalate_lt {front rest : List String} (hf : front ≠ []) (hr : rest ≠ []) :
    (":".intercalate rest).length < (":".intercalate (front ++ rest)).length := by
  rw [String.intercalate_append_of_ne_nil hf hr, String.length_append, String.length_append]
  have hc : ":".length = 1 := rfl
  omega

theorem read_of_base {s : String} (h : (parse w ("-" ++ s)).base = s) :
    read w s = (.none, pieces ':' s) := by
  obtain ⟨front, hf, hs⟩ := readWords_front w (pieces ':' s) .none
  rw [← read] at hf hs
  have hb : (named w s).2 = s := by
    rw [parse_eq, splitSign_minus] at h
    exact h
  -- With a word read the base name would be shorter than the text behind the sign.
  have hnil : front = [] := by
    by_contra hne
    have hlt := length_intercalate_lt hne (readWords_ne_nil w (pieces_ne_nil ':' s) .none)
    have hle := length_splitSign_le (":".intercalate (read w s).2)
    rw [← named, hb] at hle
    rw [← read, ← hf, intercalate_pieces rfl] at hlt
    omega
  rw [hnil, List.nil_append] at hf
  exact Prod.ext (hs hnil) hf.symm

theorem parse_name {x : String} (hc : ':' ∉ x.toList) (hu : Unsigned x) :
    parse w x = ⟨x, x, false, none, none, none⟩ := by
  have hr : read w x = (.none, [x]) := by rw [read, pieces_of_not_mem hc, readWords]
  rw [parse_eq, splitSign_of_unsigned hu, named, hr, String.intercalate_singleton, splitSign_of_unsigned hu]
  rfl

theorem sound_parse (c : String) :
    Setting.Sound w ⟨(parse w c).breakpoint, (parse w c).variant, (parse w c).mode⟩ := by
  rw [parse_eq]
  exact sound_readWords w _ _ (Setting.sound_none w)

theorem parse_of_base {s : String} (h : (parse w ("-" ++ s)).base = s) :
    parse w ("-" ++ s) = ⟨"-" ++ s, s, true, none, none, none⟩ := by
  have hb : (named w s).2 = s := by
    rw [parse_eq, splitSign_minus] at h
    exact h
  rw [parse_eq, splitSign_minus, hb, read_of_base h, Bool.true_or]
  rfl

structure Prefixes (w : Words) (words : List String) : Prop where
  known : ∀ p ∈ words, w.Known p
  colonFree : ∀ p ∈ words, ':' ∉ p.toList
  unsigned : ∀ p, w.Known p → Unsigned p

theorem read_prefixed {words : List String} (h : Prefixes w words) (c : String) :
    read w (prefixed words c) = ((settingOf w words).under (read w c).1, (read w c).2) := by
  rw [read, pieces_prefixed h.colonFree, readWords_append words (pieces_ne_nil ':' c) h.known, ← settingOf,
    read, ← readWords_under, Setting.under_none]

theorem named_prefixed {words : List String} (h : Prefixes w words) (c : String) :
    named w (prefixed words c) = named w c := by
  rw [named, read_prefixed h, named]

theorem read_minus {words : List String} (h : Prefixes w words) (s : String) :
    read w ("-" ++ s) = (.none, pieces ':' ("-" ++ s)) := by
  obtain ⟨first, rest, he⟩ := pieces_minus s
  -- The sign is part of the first segment, and no word has one.
  have hk : ¬ w.Known ("-" ++ first) := fun hk => h.unsigned _ hk (by simp)
  rw [read, he]
  exact readWords_of_not_known w hk .none rest

theorem named_minus {words : List String} (h : Prefixes w words) (s : String) :
    named w ("-" ++ s) = (true, s) := by
  rw [named, read_minus h, intercalate_pieces rfl, splitSign_minus]

theorem parse_prefixed {words : List String} (h : Prefixes w words) {c : String}
    (hc : SignAtBase w c) :
    parse w (prefixed words c) =
      ⟨prefixed words c, (parse w c).base, (parse w c).negated,
        (parse w c).breakpoint.or (settingOf w words).breakpoint,
        (parse w c).variant.or (settingOf w words).variant,
        (parse w c).mode.or (settingOf w words).mode⟩ := by
  cases words with
  | nil => simp [prefixed, settingOf, Setting.none, parse]
  | cons p words =>
    have hp : Unsigned p := h.unsigned p (h.known p (List.mem_cons_self ..))
    rw [parse_eq, splitSign_of_unsigned (unsigned_prefixed hp c), named_prefixed h, read_prefixed h]
    rcases unsigned_or_minus c with hu | ⟨s, rfl⟩
    · rw [parse_eq, splitSign_of_unsigned hu]
      rfl
    · have hn : ¬ Unsigned ("-" ++ s) := by simp [Unsigned]
      have hb : (parse w ("-" ++ s)).base = s := ((String.append_right_inj "-").1 (hc hn)).symm
      rw [parse_of_base hb, named_minus h, read_minus h]
      rfl

end Token

end UtilityCss
