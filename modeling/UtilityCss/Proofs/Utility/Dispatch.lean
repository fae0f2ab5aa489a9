import UtilityCss.Proofs.Table
import UtilityCss.Proofs.Text.Pieces
import UtilityCss.Utility.Registry

namespace UtilityCss.Registry

open Text

variable {r : Registry} {base name other key : String} {family : Family}

def Heads (name base : String) : Prop :=
  base = name ∨ (name ++ "-").toList <+: base.toList

instance (name base : String) : Decidable (Heads name base) :=
  inferInstanceAs (Decidable (_ ∨ _))

def Parts (base name key : String) : Prop :=
  base = name ∧ key = "" ∨ base = name ++ "-" ++ key

instance (base name key : String) : Decidable (Parts base name key) :=
  inferInstanceAs (Decidable (_ ∨ _))

theorem heads_iff : Heads name base ↔ ∃ key, Parts base name key := by
  constructor
  · rintro (h | ⟨rest, h⟩)
    · exact ⟨"", .inl ⟨h, rfl⟩⟩
    · refine ⟨String.ofList rest, .inr (String.toList_inj.1 ?_)⟩
      simp only [← h, String.toList_append, String.toList_ofList]
  · rintro ⟨key, ⟨h, _⟩ | h⟩
    · exact .inl h
    · exact .inr ⟨key.toList, h ▸ String.toList_append.symm⟩

theorem Parts.heads (h : Parts base name key) : Heads name base :=
  heads_iff.2 ⟨key, h⟩

theorem starts_append (s t : String) : s.toList <+: (s ++ t).toList := by
  rw [String.toList_append]
  exact List.prefix_append _ _

theorem Heads.starts (h : Heads name base) : name.toList <+: base.toList := by
  rcases h with rfl | h
  · exact List.prefix_refl _
  · exact (starts_append name "-").trans h

theorem Heads.starts_of_longer (h : Heads other (name ++ "-" ++ key)) (hlt : name.length < other.length) :
    (name ++ "-").toList <+: other.toList := by
  apply List.prefix_of_prefix_length_le (starts_append (name ++ "-") key) h.starts
  rw [String.length_toList, String.length_toList, String.length_append]
  exact hlt

theorem Parts.suffix (h : Parts base name key) : key.toList <:+ base.toList := by
  rcases h with ⟨_, rfl⟩ | rfl
  · exact List.nil_suffix
  · rw [String.toList_append]
    exact List.suffix_append _ _

theorem join_append {front back : List String} (hf : front ≠ []) (hb : back ≠ []) :
    join (front ++ back) = join front ++ "-" ++ join back :=
  String.intercalate_append_of_ne_nil hf hb

theorem parts_iff : Parts base name key ↔ ∃ n < (pieces '-' base).length,
    name = join ((pieces '-' base).take (n + 1)) ∧ key = join ((pieces '-' base).drop (n + 1)) := by
  have hmark : "-".toList = ['-'] := rfl
  have hbase : join (pieces '-' base) = base := intercalate_pieces hmark base
  have hne := pieces_ne_nil '-' base
  constructor
  · rintro (⟨rfl, rfl⟩ | rfl)
    · have hlen : (pieces '-' base).length - 1 + 1 = (pieces '-' base).length :=
        Nat.sub_add_cancel (List.length_pos_of_ne_nil hne)
      refine ⟨(pieces '-' base).length - 1, by omega, ?_, ?_⟩
      · rw [hlen, List.take_length, hbase]
      · rw [hlen, List.drop_length]
        rfl
    · rw [pieces_join hmark]
      have hname : join (pieces '-' name) = name := intercalate_pieces hmark name
      have hkey : join (pieces '-' key) = key := intercalate_pieces hmark key
      have hfront := List.length_pos_of_ne_nil (pieces_ne_nil '-' name)
      have hlen : (pieces '-' name).length - 1 + 1 = (pieces '-' name).length := Nat.sub_add_cancel hfront
      refine ⟨(pieces '-' name).length - 1, ?_, ?_, ?_⟩
      · rw [List.length_append]
        omega
      · rw [hlen, List.take_left, hname]
      · rw [hlen, List.drop_left, hkey]
  · rintro ⟨n, _, rfl, rfl⟩
    have htake : (pieces '-' base).take (n + 1) ≠ [] := by simpa using hne
    by_cases hdrop : (pieces '-' base).drop (n + 1) = []
    · have hall : (pieces '-' base).take (n + 1) = pieces '-' base :=
        List.take_of_length_le (List.drop_eq_nil_iff.1 hdrop)
      rw [hdrop, hall, hbase]
      exact .inl ⟨rfl, rfl⟩
    · refine .inr ?_
      rw [← join_append htake hdrop, List.take_append_drop, hbase]

theorem length_join_take_lt {parts : List String} {m n : Nat} (h : m < n) (hn : n < parts.length) :
    (join (parts.take (m + 1))).length < (join (parts.take (n + 1))).length := by
  have hsplit : parts.take (n + 1) = parts.take (m + 1) ++ (parts.take (n + 1)).drop (m + 1) := by
    conv_lhs => rw [← List.take_append_drop (m + 1) (parts.take (n + 1)), List.take_take]
    rw [Nat.min_eq_left (by omega)]
  have hfront : parts.take (m + 1) ≠ [] := by
    intro he
    have hlen := congrArg List.length he
    rw [List.length_take, List.length_nil] at hlen
    omega
  have hback : (parts.take (n + 1)).drop (m + 1) ≠ [] := by
    intro he
    have hlen := congrArg List.length he
    rw [List.length_drop, List.length_take, List.length_nil] at hlen
    omega
  have hmark : "-".length = 1 := rfl
  rw [hsplit, join_append hfront hback, String.length_append, String.length_append, hmark]
  omega

theorem splitAt?_eq_some_iff {parts : List String} {n : Nat} : splitAt? r parts n = some (name, key) ↔
    name ∈ r.keys ∧ name = join (parts.take n) ∧ key = join (parts.drop n) := by
  rw [splitAt?]
  split
  · rename_i hc
    rw [Table.contains_iff] at hc
    rw [Option.some_inj, Prod.mk.injEq]
    constructor
    · rintro ⟨rfl, rfl⟩
      exact ⟨hc, rfl, rfl⟩
    · rintro ⟨_, rfl, rfl⟩
      exact ⟨rfl, rfl⟩
  · rename_i hc
    rw [Table.contains_iff] at hc
    constructor
    · nofun
    · rintro ⟨hm, rfl, _⟩
      exact absurd hm hc

theorem findSome?_reverse_range {α : Type} {f : Nat → Option α} {n : Nat} {a : α} :
    (List.range n).reverse.findSome? f = some a ↔ ∃ i < n, f i = some a ∧ ∀ j < n, i < j → f j = none := by
  induction n with
  | zero => simp
  | succ n ih =>
    -- the greatest number is tried first
    rw [List.range_succ, List.reverse_append, List.reverse_singleton, List.singleton_append, List.findSome?_cons]
    cases hn : f n with
    | some b =>
      constructor
      · rintro ⟨⟩
        exact ⟨n, Nat.lt_succ_self n, hn, fun j hj hlt => by omega⟩
      · rintro ⟨i, hi, ha, hnone⟩
        rcases Nat.lt_succ_iff_lt_or_eq.1 hi with hi | rfl
        · rw [hnone n (Nat.lt_succ_self n) hi] at hn
          cases hn
        · exact hn.symm.trans ha
    | none =>
      dsimp only
      rw [ih]
      constructor
      · rintro ⟨i, hi, ha, hnone⟩
        refine ⟨i, Nat.lt_succ_of_lt hi, ha, fun j hj hlt => ?_⟩
        rcases Nat.lt_succ_iff_lt_or_eq.1 hj with hj | rfl
        · exact hnone j hj hlt
        · exact hn
      · rintro ⟨i, hi, ha, hnone⟩
        rcases Nat.lt_succ_iff_lt_or_eq.1 hi with hi | rfl
        · exact ⟨i, hi, ha, fun j hj hlt => hnone j (Nat.lt_succ_of_lt hj) hlt⟩
        · rw [ha] at hn
          cases hn

theorem split?_eq_some_iff : r.split? base = some (name, key) ↔
    name ∈ r.keys ∧ Parts base name key ∧ ∀ other ∈ r.keys, Heads other base → other.length ≤ name.length := by
  rw [split?, findSome?_reverse_range]
  constructor
  · rintro ⟨n, hn, hfound, hnone⟩
    obtain ⟨hm, hname, hkey⟩ := splitAt?_eq_some_iff.1 hfound
    refine ⟨hm, parts_iff.2 ⟨n, hn, hname, hkey⟩, fun other ho hother => ?_⟩
    obtain ⟨key', hparts⟩ := heads_iff.1 hother
    obtain ⟨m, hlt, hother, hkey'⟩ := parts_iff.1 hparts
    rcases Nat.lt_trichotomy m n with h | rfl | h
    · rw [hname, hother]
      exact Nat.le_of_lt (length_join_take_lt h hn)
    · exact Nat.le_of_eq (congrArg String.length (hother.trans hname.symm))
    · have hsome := splitAt?_eq_some_iff.2 ⟨ho, hother, hkey'⟩
      rw [hnone m hlt h] at hsome
      cases hsome
  · rintro ⟨hm, hparts, hlongest⟩
    obtain ⟨n, hn, hname, hkey⟩ := parts_iff.1 hparts
    refine ⟨n, hn, splitAt?_eq_some_iff.2 ⟨hm, hname, hkey⟩, fun m hlt h => ?_⟩
    rw [Option.eq_none_iff_forall_ne_some]
    rintro ⟨other, key'⟩ hfound
    obtain ⟨ho, hother, hkey'⟩ := splitAt?_eq_some_iff.1 hfound
    have hle := hlongest other ho (parts_iff.2 ⟨m, hlt, hother, hkey'⟩).heads
    have hgt := length_join_take_lt h hlt
    rw [← hname, ← hother] at hgt
    omega

theorem split?_eq_none_iff : r.split? base = none ↔ ∀ name ∈ r.keys, ¬ Heads name base := by
  rw [split?, List.findSome?_eq_none_iff]
  simp only [List.mem_reverse, List.mem_range]
  constructor
  · intro h name hm hheads
    obtain ⟨key, hparts⟩ := heads_iff.1 hheads
    obtain ⟨n, hn, hname, hkey⟩ := parts_iff.1 hparts
    have hsome := splitAt?_eq_some_iff.2 ⟨hm, hname, hkey⟩
    rw [h n hn] at hsome
    cases hsome
  · intro h n hn
    rw [Option.eq_none_iff_forall_ne_some]
    rintro ⟨name, key⟩ hfound
    obtain ⟨hm, hname, hkey⟩ := splitAt?_eq_some_iff.1 hfound
    exact h name hm (parts_iff.2 ⟨n, hn, hname, hkey⟩).heads

theorem split?_congr {r s : Registry} (h : ∀ name, name ∈ r.keys ↔ name ∈ s.keys) (base : String) :
    r.split? base = s.split? base := by
  apply Option.ext
  rintro ⟨name, key⟩
  rw [split?_eq_some_iff, split?_eq_some_iff, h]
  simp only [h]

theorem register_of_mem (h : name ∈ r.keys) (family : Family) :
    r.register name family = .error (.alreadyRegistered name) :=
  if_pos ((Table.contains_iff r name).2 h)

theorem register_of_fresh (h : name ∉ r.keys) (family : Family) :
    r.register name family = .ok (r.insert name family) :=
  if_neg fun hc => h ((Table.contains_iff r name).1 hc)

theorem mem_keys_insert : other ∈ (Table.insert name family r).keys ↔ other ∈ r.keys ∨ other = name := by
  rw [Table.keys_insert]
  split
  · rename_i hm
    exact ⟨.inl, fun h => h.elim id fun he => he ▸ hm⟩
  · rw [List.mem_append, List.mem_singleton]

theorem length_le_of_split? {found : String × String} (h : r.split? base = some found) (hm : other ∈ r.keys)
    (hheads : Heads other base) : other.length ≤ found.1.length :=
  (split?_eq_some_iff.1 h).2.2 other hm hheads

theorem split?_insert_of_longer (h : Heads name base) (hlonger : ∀ found ∈ r.split? base, found.1.length < name.length)
    (family : Family) : ∃ key, Parts base name key ∧ split? (r.insert name family) base = some (name, key) := by
  obtain ⟨key, hparts⟩ := heads_iff.1 h
  refine ⟨key, hparts, split?_eq_some_iff.2 ⟨mem_keys_insert.2 (.inr rfl), hparts, fun other ho hother => ?_⟩⟩
  rcases mem_keys_insert.1 ho with ho | rfl
  · cases hfound : r.split? base with
    | none => exact absurd hother (split?_eq_none_iff.1 hfound other ho)
    | some found => exact Nat.le_of_lt (Nat.lt_of_le_of_lt (length_le_of_split? hfound ho hother) (hlonger found hfound))
  · exact Nat.le_refl _

theorem split?_insert_of_not_longer (h : ¬ Heads name base ∨ ∃ found ∈ r.split? base, name.length ≤ found.1.length)
    (family : Family) : split? (r.insert name family) base = r.split? base := by
  cases hfound : r.split? base with
  | none =>
    have hnot : ¬ Heads name base := h.resolve_right fun ⟨found, hm, _⟩ => by
      rw [hfound] at hm
      cases hm
    rw [split?_eq_none_iff] at hfound ⊢
    intro other ho
    rcases mem_keys_insert.1 ho with ho | rfl
    · exact hfound other ho
    · exact hnot
  | some found =>
    obtain ⟨longest, key⟩ := found
    obtain ⟨hm, hparts, hlongest⟩ := split?_eq_some_iff.1 hfound
    refine split?_eq_some_iff.2 ⟨mem_keys_insert.2 (.inl hm), hparts, fun other ho hother => ?_⟩
    rcases mem_keys_insert.1 ho with ho | rfl
    · exact hlongest other ho hother
    · rcases h with hnot | ⟨found, hf, hle⟩
      · exact absurd hother hnot
      · rw [hfound] at hf
        cases hf
        exact hle

def attempt (r : Registry) (call : String × Family) : Registry :=
  match r.register call.1 call.2 with
  | .ok r => r
  | .error _ => r

def ofCalls (calls : List (String × Family)) : Registry :=
  calls.foldl attempt .empty

theorem attempt_of_mem (h : name ∈ r.keys) (family : Family) : attempt r (name, family) = r := by
  rw [attempt, register_of_mem h]

theorem attempt_of_fresh (h : name ∉ r.keys) (family : Family) : attempt r (name, family) = r.insert name family := by
  rw [attempt, register_of_fresh h]

theorem mem_keys_attempt {call : String × Family} : other ∈ (attempt r call).keys ↔ other ∈ r.keys ∨ other = call.1 := by
  obtain ⟨name, family⟩ := call
  by_cases h : name ∈ r.keys
  · rw [attempt_of_mem h]
    exact ⟨.inl, fun ho => ho.elim id fun he => he ▸ h⟩
  · rw [attempt_of_fresh h]
    exact mem_keys_insert

variable {calls others : List (String × Family)}

theorem ofCalls_concat (calls : List (String × Family)) (call : String × Family) :
    ofCalls (calls ++ [call]) = attempt (ofCalls calls) call :=
  List.foldl_concat ..

theorem ofCalls_append (calls later : List (String × Family)) :
    ofCalls (calls ++ later) = later.foldl attempt (ofCalls calls) :=
  List.foldl_append ..

theorem mem_keys_ofCalls : name ∈ (ofCalls calls).keys ↔ name ∈ calls.map Prod.fst := by
  induction calls using List.reverseRecOn with
  | nil => rfl
  | append_singleton calls call ih =>
    rw [ofCalls_concat, mem_keys_attempt, ih, List.map_append, List.mem_append, List.map_singleton, List.mem_singleton]

/-- After any calls a class belongs to the longest name it can have its family from, whatever the order of the
calls. A name that is taken is refused for good, and a new one takes the classes that it is a longer match of. -/
theorem split_finds_longest (calls : List (String × Family)) :
    (∀ base, (ofCalls calls).split? base = none ↔ ∀ name ∈ calls.map Prod.fst, ¬ Heads name base) ∧
      (∀ base name key, (ofCalls calls).split? base = some (name, key) ↔ name ∈ calls.map Prod.fst ∧
        Parts base name key ∧ ∀ other ∈ calls.map Prod.fst, Heads other base → other.length ≤ name.length) ∧
      (∀ others, others.Perm calls → ∀ base, (ofCalls others).split? base = (ofCalls calls).split? base) ∧
      (∀ name ∈ calls.map Prod.fst, ∀ family,
        (ofCalls calls).register name family = .error (.alreadyRegistered name) ∧
          ∀ later base, (ofCalls (calls ++ (name, family) :: later)).split? base =
            (ofCalls (calls ++ later)).split? base) ∧
      ∀ name ∉ calls.map Prod.fst, ∀ family, ∃ r, (ofCalls calls).register name family = .ok r ∧
        r = ofCalls (calls ++ [(name, family)]) ∧ ∀ base, r.split? base ≠ (ofCalls calls).split? base ↔
          Heads name base ∧ ∀ found ∈ (ofCalls calls).split? base, found.1.length < name.length := by
  simp only [← mem_keys_ofCalls]
  refine ⟨fun base => split?_eq_none_iff, fun base name key => split?_eq_some_iff, fun others h base => ?_,
    fun name hm family => ⟨register_of_mem hm family, fun later base => ?_⟩, fun name hm family => ?_⟩
  · refine split?_congr (fun name => ?_) base
    rw [mem_keys_ofCalls, mem_keys_ofCalls, (h.map Prod.fst).mem_iff]
  · rw [ofCalls_append, List.foldl_cons, attempt_of_mem hm, ofCalls_append]
  · refine ⟨(ofCalls calls).insert name family, register_of_fresh hm family, ?_, fun base => ⟨fun hne => ?_, ?_⟩⟩
    · rw [ofCalls_concat, attempt_of_fresh hm]
    · by_contra hnot
      apply hne
      refine split?_insert_of_not_longer ?_ family
      by_cases hheads : Heads name base
      · simpa [hheads] using hnot
      · exact .inl hheads
    · rintro ⟨hheads, hlonger⟩ he
      obtain ⟨key, _, hnew⟩ := split?_insert_of_longer hheads hlonger family
      exact hm (split?_eq_some_iff.1 (he.symm.trans hnew)).1

def nestedCalls : List (String × Family) :=
  [("bg", .background), ("bg-gradient-to", .gradientDirection), ("", .zIndex), ("bg", .text)]

theorem split_finds_longest_nested :
    nestedCalls.reverse.Perm nestedCalls ∧
      (∀ calls ∈ [nestedCalls, nestedCalls.reverse],
        (ofCalls calls).split? "bg-gradient-to-r" = some ("bg-gradient-to", "r")) ∧
      (ofCalls nestedCalls).split? "bg-gradient-" = some ("bg", "gradient-") ∧
      (ofCalls nestedCalls).split? "-m" = some ("", "m") ∧ (ofCalls nestedCalls).split? "m" = none ∧
      "bg" ∈ nestedCalls.map Prod.fst ∧
      (ofCalls nestedCalls).register "bg" .zIndex = .error (.alreadyRegistered "bg") ∧
      "bg-gradient" ∉ nestedCalls.map Prod.fst ∧
      ∃ r, (ofCalls nestedCalls).register "bg-gradient" .text = .ok r ∧
        r.split? "bg-gradient-" ≠ some ("bg", "gradient-") ∧
        r.split? "bg-gradient-to-r" = some ("bg-gradient-to", "r") := by
  have hperm : nestedCalls.reverse.Perm nestedCalls := List.reverse_perm nestedCalls
  have hpresent : "bg" ∈ nestedCalls.map Prod.fst := by decide
  have hfresh : "bg-gradient" ∉ nestedCalls.map Prod.fst := by decide
  obtain ⟨hnone, hsome, horder, hrefused, hnew⟩ := split_finds_longest nestedCalls
  have hlong : (ofCalls nestedCalls).split? "bg-gradient-to-r" = some ("bg-gradient-to", "r") :=
    (hsome _ _ _).2 (by decide)
  have hshort : (ofCalls nestedCalls).split? "bg-gradient-" = some ("bg", "gradient-") :=
    (hsome _ _ _).2 (by decide)
  obtain ⟨r, hr, _, hchange⟩ := hnew _ hfresh .text
  refine ⟨hperm, ?_, hshort, (hsome _ _ _).2 (by decide), (hnone _).2 (by decide), hpresent,
    (hrefused _ hpresent .zIndex).1, hfresh, r, hr, ?_, ?_⟩
  · simp only [List.forall_mem_cons, List.not_mem_nil, false_imp_iff, implies_true, and_true]
    exact ⟨hlong, (horder _ hperm _).trans hlong⟩
  · rw [← hshort, hchange, hshort]
    decide
  · by_contra hne
    rw [← hlong, ← ne_eq, hchange, hlong] at hne
    exact absurd (hne.2 _ rfl) (by decide)

end UtilityCss.Registry
