import Mathlib.Data.List.Nodup
import Mathlib.Data.List.Pairwise
import UtilityCss.Generation
import UtilityCss.Proofs.Distinct
import UtilityCss.Proofs.Expansion.Step
import UtilityCss.Proofs.Refusal.Tokens

namespace UtilityCss

open Outcome

namespace Resolver

variable (r : Resolver)

def rulesOf (token : String) : List Rule :=
  (r.resolve [] token).toOption.getD []

theorem rulesOf_eq {token : String} {rules : List Rule} (h : r.resolve [] token = .ok rules) :
    r.rulesOf token = rules := by
  rw [rulesOf, h]
  rfl

def entriesOf (tokens : List String) : List (String × List Rule) :=
  (tokens.filter fun x => !(r.rulesOf x).isEmpty).map fun x => (x, r.rulesOf x)

theorem entries_collected {xs : List String} (hd : xs.Nodup) :
    ∀ t : Table String (List Rule), (∀ x ∈ xs, x ∉ t.keys) →
      Ensures (fun t' => t'.entries = t.entries ++ r.entriesOf xs)
        (xs.foldlM (fun t token =>
          (r.resolve [] token).map fun rules => if rules.isEmpty then t else t.insert token rules) t) := by
  induction xs with
  | nil =>
    intro t _
    simp [entriesOf]
  | cons x xs ih =>
    intro t hf
    rw [List.nodup_cons] at hd
    rw [List.foldlM_cons, ensures_bind, ensures_map]
    intro rules hr
    have he := r.rulesOf_eq hr
    by_cases hempty : rules.isEmpty = true
    · have hi := ih hd.2 t fun y hy => hf y (List.mem_cons_of_mem x hy)
      simpa [entriesOf, he, hempty] using hi
    · have hx : x ∉ t.keys := hf x (List.mem_cons_self ..)
      have hentries : (t.insert x rules).entries = t.entries ++ [(x, rules)] := Table.put_of_fresh hx rules
      have hi := ih hd.2 (t.insert x rules) fun y hy => by
        rw [Table.keys_insert, if_neg hx, List.mem_append, List.mem_singleton, not_or]
        exact ⟨hf y (List.mem_cons_of_mem x hy), fun hxy => hd.1 (hxy ▸ hy)⟩
      simpa [entriesOf, he, hempty, hentries] using hi

theorem nodup_sorted (xs : List String) : (sorted xs).Nodup :=
  (List.mergeSort_perm _ _).nodup_iff.2 (nodup_eraseDups xs)

theorem pairwise_sorted (xs : List String) : (sorted xs).Pairwise (· ≤ ·) := by
  have htrans (a b c : String) (hab : (!decide (b < a)) = true) (hbc : (!decide (c < b)) = true) :
      (!decide (c < a)) = true := by
    simp only [Bool.not_eq_true', decide_eq_false_iff_not, String.not_lt] at hab hbc ⊢
    exact String.le_trans hab hbc
  have htotal (a b : String) : (!decide (b < a) || !decide (a < b)) = true := by
    simp only [Bool.or_eq_true, Bool.not_eq_true', decide_eq_false_iff_not, String.not_lt]
    exact String.le_total a b
  apply (List.pairwise_mergeSort htrans htotal xs.eraseDups).imp
  intro a b h
  simp only [Bool.not_eq_true', decide_eq_false_iff_not, String.not_lt] at h
  exact h

theorem sorted_eq_self {xs : List String} (hd : xs.Nodup) (ho : xs.Pairwise (· ≤ ·)) :
    sorted xs = xs := by
  refine List.Perm.eq_of_pairwise (fun a b _ _ => String.le_antisymm) (pairwise_sorted xs) ho ?_
  rw [List.perm_ext_iff_of_nodup (nodup_sorted xs) hd]
  exact fun x => mem_sorted x xs

theorem sorted_filter_eq {xs ys : List String} {p : String → Bool}
    (h : ∀ x, p x = true → (x ∈ xs ↔ x ∈ ys)) : (sorted xs).filter p = (sorted ys).filter p := by
  apply List.Perm.eq_of_pairwise (fun a b _ _ => String.le_antisymm) ((pairwise_sorted xs).filter p)
    ((pairwise_sorted ys).filter p)
  rw [List.perm_ext_iff_of_nodup ((nodup_sorted xs).filter p) ((nodup_sorted ys).filter p)]
  intro x
  simp only [List.mem_filter, mem_sorted, and_congr_left_iff]
  exact h x

theorem sorted_filter_of_subset {xs ys : List String} (h : xs ⊆ ys) :
    sorted xs = (sorted ys).filter (· ∈ xs) := by
  have hall : (sorted xs).filter (· ∈ xs) = sorted xs := by
    rw [List.filter_eq_self]
    intro x hx
    exact decide_eq_true ((mem_sorted x xs).1 hx)
  rw [← hall]
  apply sorted_filter_eq
  intro x hx
  have hmem : x ∈ xs := of_decide_eq_true hx
  exact iff_of_true hmem (h hmem)

theorem sorted_congr {xs ys : List String} (h : ∀ x, x ∈ xs ↔ x ∈ ys) : sorted xs = sorted ys := by
  simpa using sorted_filter_eq (p := fun _ => true) fun x _ => h x

theorem entries_resolveAll {tokens : List String} {t : Table String (List Rule)}
    (h : r.resolveAll tokens = .ok t) : t.entries = r.entriesOf (sorted tokens) := by
  have he := r.entries_collected (nodup_sorted tokens) .empty (by simp [Table.keys, Table.empty]) t h
  simpa [Table.empty] using he

theorem entriesOf_eq {es : List (String × List Rule)}
    (h : ∀ e ∈ es, r.resolve [] e.1 = .ok e.2 ∧ e.2 ≠ []) : r.entriesOf (es.map Prod.fst) = es := by
  induction es with
  | nil => rfl
  | cons e es ih =>
    rw [List.forall_mem_cons] at h
    have hi := ih h.2
    rw [entriesOf] at hi ⊢
    rw [List.map_cons, List.filter_cons, r.rulesOf_eq h.1.1]
    simp [h.1.2, r.rulesOf_eq h.1.1, hi]

theorem mem_entriesOf {tokens : List String} {token : String} {rules : List Rule} :
    (token, rules) ∈ r.entriesOf tokens ↔ token ∈ tokens ∧ r.resolve [] token = .ok rules ∧ rules ≠ [] := by
  simp only [entriesOf, List.mem_map, List.mem_filter, Prod.mk.injEq]
  constructor
  · rintro ⟨x, ⟨hx, hne⟩, rfl, rfl⟩
    refine ⟨hx, ?_, by simpa using hne⟩
    rw [rulesOf] at hne ⊢
    cases hr : r.resolve [] x with
    | ok rules => rfl
    | error e =>
      rw [hr] at hne
      cases hne
  · rintro ⟨hx, hr, hne⟩
    have he := r.rulesOf_eq hr
    exact ⟨token, ⟨hx, by simpa [he] using hne⟩, rfl, he⟩

theorem mem_entries_resolveAll {tokens : List String} {t : Table String (List Rule)}
    (h : r.resolveAll tokens = .ok t) {token : String} {rules : List Rule} :
    (token, rules) ∈ t.entries ↔ token ∈ tokens ∧ r.resolve [] token = .ok rules ∧ rules ≠ [] := by
  rw [r.entries_resolveAll h, mem_entriesOf, mem_sorted]

end Resolver

open Stylesheet

/-- A stylesheet behind its banner, if one is wanted. -/
def Config.bannered (c : Config) (banner : Bool) (css : String) : String :=
  if banner = true ∧ c.bannerText ≠ "" then c.bannerText ++ "\n\n" ++ css else css

theorem Config.bannered_eq (c : Config) (banner : Bool) (css : String) :
    c.bannered banner css = if banner then c.withBanner "\n\n" css else css := by
  rw [bannered, withBanner]
  cases banner <;> by_cases he : c.bannerText = "" <;> simp [he]

theorem Config.generate_congr {classes classes' : List String} (h : ∀ x, x ∈ classes ↔ x ∈ classes') (c : Config)
    (banner : Bool) : c.generate classes banner = c.generate classes' banner := by
  rw [generate, generate, Resolver.sorted_congr h]

theorem Config.exists_resolved {c : Config} {classes : List String} {banner : Bool} {g : Generation}
    (h : c.generate classes banner = .ok g) :
    ∃ t, c.resolver.resolveAll (Resolver.sorted classes) = .ok t ∧
      g = ⟨c.bannered banner (render (sections c.opening Vocabulary.breakpoints t)), Resolver.sorted classes, t⟩ := by
  rw [generate] at h
  dsimp only at h
  cases hr : c.resolver.resolveAll (Resolver.sorted classes) with
  | error e =>
    rw [hr] at h
    cases h
  | ok resolved =>
    rw [hr] at h
    cases h
    exact ⟨resolved, rfl, by rw [bannered_eq, emit]⟩

theorem Config.generate_eq_ok {c : Config} {classes : List String} {banner : Bool} {g : Generation}
    (h : c.generate classes banner = .ok g) :
    c.resolver.resolveAll (Resolver.sorted classes) = .ok g.resolved ∧
      g.css = c.bannered banner (render (sections c.opening Vocabulary.breakpoints g.resolved)) := by
  obtain ⟨t, ht, rfl⟩ := exists_resolved h
  exact ⟨ht, rfl⟩

theorem Config.tokens_generate {c : Config} {classes : List String} {banner : Bool} {g : Generation}
    (h : c.generate classes banner = .ok g) : g.tokens = Resolver.sorted classes := by
  obtain ⟨t, _, rfl⟩ := exists_resolved h
  rfl

theorem Config.mem_resolved {c : Config} {classes : List String} {banner : Bool} {g : Generation}
    (h : c.generate classes banner = .ok g) {token : String} {rules : List Rule} :
    (token, rules) ∈ g.resolved.entries ↔
      token ∈ classes ∧ c.resolver.resolve [] token = .ok rules ∧ rules ≠ [] := by
  rw [c.resolver.mem_entries_resolveAll (generate_eq_ok h).1, Resolver.mem_sorted]

theorem Config.entries_generate {c : Config} {es : List (String × List Rule)} (hd : (es.map Prod.fst).Nodup)
    (ho : (es.map Prod.fst).Pairwise (· ≤ ·))
    (h : ∀ e ∈ es, c.resolver.resolve [] e.1 = .ok e.2 ∧ e.2 ≠ []) {banner : Bool} {g : Generation}
    (hg : c.generate (es.map Prod.fst) banner = .ok g) : g.resolved.entries = es := by
  have hsorted := Resolver.sorted_eq_self hd ho
  rw [c.resolver.entries_resolveAll (generate_eq_ok hg).1, hsorted, hsorted, c.resolver.entriesOf_eq h]

theorem Config.generates_of_resolves {c : Config} {classes : List String}
    (h : ∀ token ∈ classes, (c.resolver.resolve [] token).isOk = true) (banner : Bool) :
    ∃ g, c.generate classes banner = .ok g := by
  have hresolved : ∃ t, c.resolver.resolveAll (Resolver.sorted classes) = .ok t := by
    rw [← not_fails_iff, Resolver.fails_resolveAll_iff]
    rintro ⟨token, ht, e, he⟩
    have hok := h token ((Resolver.mem_sorted token classes).1 ht)
    rw [he] at hok
    cases hok
  obtain ⟨t, ht⟩ := hresolved
  rw [generate]
  dsimp only
  rw [ht]
  exact ⟨_, rfl⟩

theorem Config.generates_of_plain {c : Config} {classes : List String}
    (h : ∀ token ∈ classes, c.resolver.presetClasses? (c.resolver.baseOf token) = none ∧
      (c.resolver.plainRules token).isOk = true) (banner : Bool) :
    ∃ g, c.generate classes banner = .ok g := by
  refine generates_of_resolves (fun token ht => ?_) banner
  rw [c.resolver.resolve_of_not_preset (h token ht).1]
  exact (h token ht).2

theorem Resolver.resolve_entries (r : Resolver) {es : List (String × List Rule)}
    (h : ∀ e ∈ es, r.presetClasses? (r.baseOf e.1) = none ∧ r.plainRules e.1 = .ok e.2 ∧ e.2 ≠ []) :
    ∀ e ∈ es, r.resolve [] e.1 = .ok e.2 ∧ e.2 ≠ [] := by
  intro e he
  obtain ⟨hpreset, hrules, hne⟩ := h e he
  exact ⟨(r.resolve_of_not_preset hpreset).trans hrules, hne⟩

theorem Config.exists_entries_generate {c : Config} {es : List (String × List Rule)}
    (hd : (es.map Prod.fst).Nodup) (ho : (es.map Prod.fst).Pairwise (· ≤ ·))
    (h : ∀ e ∈ es, c.resolver.resolve [] e.1 = .ok e.2 ∧ e.2 ≠ []) (banner : Bool) :
    ∃ g, c.generate (es.map Prod.fst) banner = .ok g ∧ g.resolved.entries = es := by
  have hok : ∀ token ∈ es.map Prod.fst, (c.resolver.resolve [] token).isOk = true := by
    rw [List.forall_mem_map]
    intro e he
    rw [(h e he).1]
    rfl
  obtain ⟨g, hg⟩ := generates_of_resolves hok banner
  exact ⟨g, hg, entries_generate hd ho h hg⟩

end UtilityCss
