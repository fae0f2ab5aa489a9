import Mathlib.Data.List.Induction
import UtilityCss.Proofs.Token.Prefixes

/-!
The parts of a token: a sign, words, a second sign and the base name. A token has parts in exactly one way when
as many of its segments as possible are taken for words, and it is read by these parts, of the words only the
last of each kind.
-/

namespace UtilityCss.Token

open Text

def signText (negated : Bool) : String :=
  if negated then "-" else ""

structure Parts where
  outer : Bool
  words : List String
  inner : Bool
  base : String

namespace Parts

variable (m : Parts)

def name : String :=
  signText m.inner ++ m.base

def body : String :=
  prefixed m.words m.name

def text : String :=
  signText m.outer ++ m.body

end Parts

structure Leading (w : Words) (body : String) (words : List String) : Prop where
  known : ∀ p ∈ words, w.Known p
  colonFree : ∀ p ∈ words, ':' ∉ p.toList
  front : ∃ rest, body = prefixed words rest

/-- The parts that a token has: a sign wherever one stands, and as many words as there are. -/
structure Parts.Of (w : Words) (token : String) (m : Parts) : Prop where
  text : m.text = token
  outer : m.outer = true ↔ ¬ Unsigned token
  words : Leading w m.body m.words
  most : ∀ words, Leading w m.body words → words.length ≤ m.words.length
  inner : m.inner = true ↔ ¬ Unsigned m.name

def lastOf (w : Words) (words : List String) : Setting where
  breakpoint := (words.filter fun p => p ∈ w.breakpoints).getLast?
  variant := (words.filter fun p => p ∈ w.variants ∧ p ∉ w.breakpoints ∧ p ∉ w.modes).getLast?
  mode := (words.filter fun p => p ∈ w.modes ∧ p ∉ w.breakpoints).getLast?

variable {w : Words} {token : String}

theorem settingOf_eq_lastOf (words : List String) : settingOf w words = lastOf w words := by
  induction words using List.reverseRecOn with
  | nil => rfl
  | append_singleton words p ih =>
    have hstep : settingOf w (words ++ [p]) = ((settingOf w words).read? w p).getD (settingOf w words) := by
      rw [settingOf, List.foldl_concat, ← settingOf]
    rw [hstep, ih, Setting.read?]
    simp only [List.contains_iff_mem, lastOf, List.filter_append, List.filter_singleton]
    by_cases hb : p ∈ w.breakpoints
    · simp [hb]
    · by_cases hm : p ∈ w.modes
      · simp [hb, hm]
      · by_cases hv : p ∈ w.variants <;> simp [hb, hm, hv]

theorem splitSign_signText {negated : Bool} {s : String} (h : negated = true ↔ ¬ Unsigned (signText negated ++ s)) :
    splitSign (signText negated ++ s) = (negated, s) := by
  cases negated with
  | true => exact splitSign_minus s
  | false =>
    have hs : signText false ++ s = s := by simp [signText]
    rw [hs] at h ⊢
    exact splitSign_of_unsigned (by simpa using h)

theorem exists_sign (s : String) :
    ∃ negated rest, signText negated ++ rest = s ∧ (negated = true ↔ ¬ Unsigned s) := by
  rcases unsigned_or_minus s with h | ⟨t, rfl⟩
  · exact ⟨false, s, by simp [signText], by simpa using h⟩
  · exact ⟨true, t, rfl, by simp [Unsigned]⟩

def Nameward (w : Words) (segments : List String) : Prop :=
  ∀ p next more, segments = p :: next :: more → ¬ w.Known p

theorem readWords_of_nameward {segments : List String} (h : Nameward w segments) (s : Setting) :
    readWords w s segments = (s, segments) := by
  cases segments with
  | nil => rfl
  | cons p rest =>
    cases rest with
    | nil => rfl
    | cons next more => exact readWords_of_not_known w (h p next more rfl) s _

theorem exists_words {segments : List String} (h : segments ≠ []) :
    ∃ words rest, segments = words ++ rest ∧ rest ≠ [] ∧ (∀ p ∈ words, w.Known p) ∧ Nameward w rest := by
  induction segments with
  | nil => exact absurd rfl h
  | cons p segments ih =>
    by_cases hp : w.Known p ∧ segments ≠ []
    · obtain ⟨words, rest, rfl, hrest, hknown, hname⟩ := ih hp.2
      exact ⟨p :: words, rest, rfl, hrest, List.forall_mem_cons.2 ⟨hp.1, hknown⟩, hname⟩
    · refine ⟨[], p :: segments, rfl, h, nofun, fun q next more he hq => hp ?_⟩
      obtain ⟨rfl, rfl⟩ := List.cons.inj he
      exact ⟨hq, List.cons_ne_nil _ _⟩

theorem length_le_of_nameward {words rest others more : List String} (h : words ++ rest = others ++ more)
    (hmore : more ≠ []) (hknown : ∀ p ∈ others, w.Known p) (hname : Nameward w rest) :
    others.length ≤ words.length := by
  induction words generalizing others with
  | nil =>
    cases others with
    | nil => exact Nat.le_refl _
    | cons p others =>
      obtain ⟨next, tail, ht⟩ := List.exists_cons_of_ne_nil (List.append_ne_nil_of_right_ne_nil others hmore)
      rw [List.nil_append, List.cons_append, ht] at h
      exact absurd (hknown p (List.mem_cons_self ..)) (hname p next tail h)
  | cons q words ih =>
    cases others with
    | nil => exact Nat.zero_le _
    | cons p others =>
      rw [List.cons_append, List.cons_append] at h
      exact Nat.succ_le_succ (ih (List.cons.inj h).2 fun p hp => hknown p (List.mem_cons_of_mem _ hp))

theorem intercalate_words (words : List String) {rest : List String} (h : rest ≠ []) :
    ":".intercalate (words ++ rest) = prefixed words (":".intercalate rest) := by
  induction words with
  | nil => rfl
  | cons p words ih =>
    rw [List.cons_append, String.intercalate_cons_of_ne_nil (List.append_ne_nil_of_right_ne_nil words h), ih]
    rfl

-- The last segment is never a word: at least an empty one follows the colon of the last word.
theorem leading_iff {body : String} {words : List String} :
    Leading w body words ↔ (∀ p ∈ words, w.Known p) ∧ ∃ rest ≠ [], pieces ':' body = words ++ rest := by
  constructor
  · rintro ⟨hknown, hfree, rest, rfl⟩
    exact ⟨hknown, pieces ':' rest, pieces_ne_nil ':' rest, pieces_prefixed hfree rest⟩
  · rintro ⟨hknown, rest, hrest, hp⟩
    refine ⟨hknown, fun p hm => ?_, ":".intercalate rest, ?_⟩
    · apply not_mem_of_mem_pieces (s := body)
      rw [hp]
      exact List.mem_append_left _ hm
    · rw [← intercalate_words words hrest, ← hp, intercalate_pieces rfl]

namespace Parts

variable {m n : Parts}

theorem pieces_body (h : m.Of w token) : pieces ':' m.body = m.words ++ pieces ':' m.name :=
  pieces_prefixed h.words.colonFree m.name

theorem of_nameward (ht : m.text = token) (ho : m.outer = true ↔ ¬ Unsigned token)
    (hk : ∀ p ∈ m.words, w.Known p) (hf : ∀ p ∈ m.words, ':' ∉ p.toList)
    (hn : Nameward w (pieces ':' m.name)) (hi : m.inner = true ↔ ¬ Unsigned m.name) : m.Of w token := by
  refine ⟨ht, ho, ⟨hk, hf, m.name, rfl⟩, fun words hw => ?_, hi⟩
  obtain ⟨hknown, rest, hrest, hp⟩ := leading_iff.1 hw
  rw [body, pieces_prefixed hf] at hp
  exact length_le_of_nameward hp hrest hknown hn

theorem nameward_of (h : m.Of w token) : Nameward w (pieces ':' m.name) := by
  intro p next more hp hknown
  have hlong : Leading w m.body (m.words ++ [p]) := by
    refine leading_iff.2 ⟨?_, next :: more, List.cons_ne_nil _ _, ?_⟩
    · rw [List.forall_mem_append, List.forall_mem_singleton]
      exact ⟨h.words.known, hknown⟩
    · rw [pieces_body h, hp, List.append_assoc, List.singleton_append]
  have hlength := h.most _ hlong
  rw [List.length_append, List.length_singleton] at hlength
  omega

theorem exists_of (w : Words) (token : String) : ∃ m : Parts, m.Of w token := by
  obtain ⟨outer, body, htoken, houter⟩ := exists_sign token
  obtain ⟨words, rest, hbody, hrest, hknown, hname⟩ := exists_words (w := w) (pieces_ne_nil ':' body)
  obtain ⟨inner, base, hrestText, hinner⟩ := exists_sign (":".intercalate rest)
  have hfree : ∀ p ∈ words ++ rest, ':' ∉ p.toList := fun p hp => not_mem_of_mem_pieces (hbody ▸ hp)
  have hpieces : pieces ':' (":".intercalate rest) = rest :=
    pieces_intercalate rfl hrest fun p hp => hfree p (List.mem_append_right _ hp)
  have hwhole : prefixed words (":".intercalate rest) = body := by
    rw [← intercalate_words words hrest, ← hbody, intercalate_pieces rfl]
  refine ⟨⟨outer, words, inner, base⟩, of_nameward ?_ houter hknown
    (fun p hp => hfree p (List.mem_append_left _ hp)) ?_ ?_⟩
  · rw [text, Parts.body, name, hrestText, hwhole, htoken]
  · rw [name, hrestText, hpieces]
    exact hname
  · rw [name, hrestText]
    exact hinner

theorem splitSign_token (h : m.Of w token) : splitSign token = (m.outer, m.body) := by
  have ho := h.outer
  rw [← h.text] at ho ⊢
  exact splitSign_signText ho

theorem splitSign_name (h : m.Of w token) : splitSign m.name = (m.inner, m.base) :=
  splitSign_signText h.inner

theorem of_unique (hm : m.Of w token) (hn : n.Of w token) : m = n := by
  have hsplit := (splitSign_token hm).symm.trans (splitSign_token hn)
  obtain ⟨houter, hbody⟩ := Prod.mk.inj hsplit
  have hpieces : m.words ++ pieces ':' m.name = n.words ++ pieces ':' n.name := by
    rw [← pieces_body hm, ← pieces_body hn, hbody]
  have hlength : m.words.length = n.words.length :=
    Nat.le_antisymm (hn.most _ (hbody ▸ hm.words)) (hm.most _ (hbody ▸ hn.words))
  obtain ⟨hwords, hrest⟩ := List.append_inj hpieces hlength
  have hjoin (s : String) : ":".intercalate (pieces ':' s) = s := intercalate_pieces rfl s
  have hname : m.name = n.name := by rw [← hjoin m.name, hrest, hjoin]
  have hsign := (splitSign_name hm).symm.trans (hname ▸ splitSign_name hn)
  obtain ⟨hinner, hbase⟩ := Prod.mk.inj hsign
  cases m
  cases n
  simp_all

theorem parse_of (h : m.Of w token) :
    parse w token = ⟨token, m.base, m.outer || m.inner, (lastOf w m.words).breakpoint,
      (lastOf w m.words).variant, (lastOf w m.words).mode⟩ := by
  have hread : read w m.body = (lastOf w m.words, pieces ':' m.name) := by
    rw [read, pieces_body h, readWords_append m.words (pieces_ne_nil ':' m.name) h.words.known, ← settingOf,
      settingOf_eq_lastOf, readWords_of_nameward (nameward_of h)]
  have hnamed : named w m.body = (m.inner, m.base) := by
    rw [named, hread, intercalate_pieces rfl, splitSign_name h]
  rw [parse_eq, splitSign_token h, hnamed, hread]

end Parts

/-- Every token has its parts in exactly one way and is read by them: the base name, a sign if there is one in
either place, and the last word of each kind. So tokens are read alike if they agree in these. -/
theorem parse_recognises_parts (w : Words) :
    (∀ token, ∃! m : Parts, m.Of w token) ∧
      (∀ token (m : Parts), m.Of w token →
        parse w token = ⟨token, m.base, m.outer || m.inner, (lastOf w m.words).breakpoint,
          (lastOf w m.words).variant, (lastOf w m.words).mode⟩) ∧
      ∀ token other (m n : Parts), m.Of w token → n.Of w other → m.base = n.base →
        lastOf w m.words = lastOf w n.words → (m.outer || m.inner) = (n.outer || n.inner) →
          parse w token = { parse w other with raw := token } := by
  refine ⟨fun token => ?_, fun token m => Parts.parse_of, ?_⟩
  · obtain ⟨m, hm⟩ := Parts.exists_of w token
    exact ⟨m, hm, fun n hn => Parts.of_unique hn hm⟩
  · intro token other m n hm hn hbase hwords hsign
    rw [Parts.parse_of hm, Parts.parse_of hn, hbase, hwords, hsign]

def mixedWords : Words :=
  ⟨["sm", "hover"], ["open", "sm", "dark"], ["dark", "hover", "focus"]⟩

def mixedOuter : Parts :=
  ⟨true, ["sm", "dark", "open", "focus", "hover"], false, "x:sm:y"⟩

def mixedInner : Parts :=
  ⟨false, ["open", "hover", "focus"], true, "x:sm:y"⟩

theorem parse_recognises_parts_mixed :
    mixedOuter.Of mixedWords "-sm:dark:open:focus:hover:x:sm:y" ∧
      mixedInner.Of mixedWords "open:hover:focus:-x:sm:y" ∧
      parse mixedWords "-sm:dark:open:focus:hover:x:sm:y" =
        ⟨"-sm:dark:open:focus:hover:x:sm:y", "x:sm:y", true, some "hover", some "open", some "focus"⟩ ∧
      parse mixedWords "-sm:dark:open:focus:hover:x:sm:y" =
        { parse mixedWords "open:hover:focus:-x:sm:y" with raw := "-sm:dark:open:focus:hover:x:sm:y" } := by
  have hname {p next : String} {more : List String} (hp : ¬ mixedWords.Known p) :
      Nameward mixedWords (p :: next :: more) := by
    rintro q _ _ ⟨⟩
    exact hp
  have hx : ¬ mixedWords.Known "x" ∧ ¬ mixedWords.Known "-x" := by decide
  have houter : mixedOuter.Of mixedWords "-sm:dark:open:focus:hover:x:sm:y" := by
    apply Parts.of_nameward
    · decide
    · decide
    · decide
    · decide
    · have hp : pieces ':' mixedOuter.name = ["x", "sm", "y"] := by decide
      rw [hp]
      exact hname hx.1
    · decide
  have hinner : mixedInner.Of mixedWords "open:hover:focus:-x:sm:y" := by
    apply Parts.of_nameward
    · decide
    · decide
    · decide
    · decide
    · have hp : pieces ':' mixedInner.name = ["-x", "sm", "y"] := by decide
      rw [hp]
      exact hname hx.2
    · decide
  obtain ⟨_, hparse, halike⟩ := parse_recognises_parts mixedWords
  refine ⟨houter, hinner, hparse _ _ houter, halike _ _ _ _ houter hinner rfl rfl rfl⟩

end UtilityCss.Token
