import Mathlib.Tactic.Common
import UtilityCss.Files.Tree
import UtilityCss.Proofs.Outcome
import UtilityCss.Proofs.Table

/-!
Files and their stamps in the course of time. Where no path comes back to a stamp that it has had, a file that
has one stamp at two times has been the same all the time between.
-/

namespace UtilityCss

namespace Tree

variable {t u : Tree} {p : Path} {trees past older : List Tree}

def file? (t : Tree) (p : Path) : Option Node :=
  (t.node? p).filter fun n => !n.isFolder

theorem file?_eq_some_iff {n : Node} : t.file? p = some n ↔ ∃ content stamp, n = .file content stamp ∧
    t.node? p = some (.file content stamp) := by
  rw [file?, Option.filter_eq_some_iff]
  cases n with
  | folder => simp [Node.isFolder]
  | file content stamp =>
    constructor
    · rintro ⟨hn, _⟩
      exact ⟨content, stamp, rfl, hn⟩
    · rintro ⟨_, _, he, hn⟩
      rw [he]
      exact ⟨hn, rfl⟩

theorem isFile_eq (t : Tree) (p : Path) : t.isFile p = (t.file? p).isSome := by
  rw [isFile, file?]
  cases t.node? p with
  | none => rfl
  | some n => cases n <;> rfl

theorem stamp?_eq (t : Tree) (p : Path) : t.stamp? p = (t.file? p).bind Node.stamp? := by
  rw [stamp?, file?]
  cases t.node? p with
  | none => rfl
  | some n => cases n <;> rfl

theorem stamp?_eq_some_iff {stamp : Int} :
    t.stamp? p = some stamp ↔ ∃ content, t.node? p = some (.file content stamp) := by
  rw [stamp?]
  constructor
  · intro h
    obtain ⟨n, hn, hs⟩ := Option.bind_eq_some_iff.1 h
    cases n with
    | folder => cases hs
    | file content s => exact ⟨content, by rw [hn, Option.some.inj hs]⟩
  · rintro ⟨content, hn⟩
    rw [hn]
    rfl

theorem isFile_iff_stamp? : t.isFile p = true ↔ ∃ stamp, t.stamp? p = some stamp := by
  rw [isFile, stamp?]
  cases t.node? p with
  | none => simp
  | some n => cases n <;> simp [Node.isFolder, Node.stamp?]

theorem file?_eq_none_iff : t.file? p = none ↔ t.stamp? p = none := by
  rw [← Option.not_isSome_iff_eq_none, ← isFile_eq, isFile_iff_stamp?, Option.eq_none_iff_forall_ne_some]
  exact not_exists

def Settled (trees : List Tree) (p : Path) : Prop :=
  ∀ t ∈ trees, ∀ u ∈ trees, ∀ content content' stamp,
    t.node? p = some (.file content stamp) → u.node? p = some (.file content' stamp) → content = content'

theorem Settled.file? (h : Settled trees p) (ht : t ∈ trees) (hu : u ∈ trees) {stamp : Int}
    (hts : t.stamp? p = some stamp) (hus : u.stamp? p = some stamp) : t.file? p = u.file? p := by
  obtain ⟨content, hn⟩ := stamp?_eq_some_iff.1 hts
  obtain ⟨content', hn'⟩ := stamp?_eq_some_iff.1 hus
  rw [Tree.file?, Tree.file?, hn, hn', h t ht u hu content content' stamp hn hn']

theorem settled_of_stamps (contentOf : Int → ByteArray)
    (h : ∀ t ∈ trees, ∀ at_ content stamp, t.get? at_ = some (.file content stamp) → content = contentOf stamp)
    (p : Path) : Settled trees p := by
  have hnode : ∀ t ∈ trees, ∀ content stamp, t.node? p = some (.file content stamp) → content = contentOf stamp := by
    intro t ht content stamp hn
    obtain ⟨at_, _, hat⟩ := Option.bind_eq_some_iff.1 hn
    exact h t ht at_ content stamp hat
  intro t ht u hu content content' stamp hn hn'
  rw [hnode t ht _ _ hn, hnode u hu _ _ hn']

def Proper (t : Tree) : Prop :=
  ∀ k ∈ t.nodes.keys, "." ∉ k ∧ ".." ∉ k

/-- A tree that can come after others: at every path the file is kept, or there is none, or it has a stamp that
the path has not had before. -/
structure Follows (u t : Tree) (past : List Tree) : Prop where
  home : u.home = t.home
  proper : u.Proper
  fresh : ∀ p, u.file? p = t.file? p ∨ u.file? p = none ∨ ∀ v ∈ t :: past, v.stamp? p ≠ u.stamp? p

inductive History : List Tree → Prop
  | single {t : Tree} : t.Proper → History [t]
  | next {u t : Tree} {past : List Tree} : History (t :: past) → u.Follows t past → History (u :: t :: past)

theorem Follows.refl (hp : t.Proper) (past : List Tree) : t.Follows t past :=
  ⟨rfl, hp, fun _ => .inl rfl⟩

theorem walk_mono (hfolder : ∀ a, u.get? a = some .folder → t.get? a = some .folder) {here end_ : Place}
    {ps : List String} (h : u.walk here ps = .ok end_) (hend : (t.get? end_).isSome = true) :
    t.walk here ps = .ok end_ := by
  induction ps generalizing here with
  | nil =>
    rw [walk] at h ⊢
    split at h
    · cases h
      rw [if_pos hend]
    · cases h
  | cons p ps ih =>
    rw [walk] at h ⊢
    split at h
    · cases h
    · cases h
    · rename_i hhere
      rw [hfolder _ hhere]
      dsimp only
      by_cases hdots : p = ".."
      · rw [if_pos hdots] at h ⊢
        exact ih h
      · rw [if_neg hdots] at h ⊢
        by_cases hdot : p = "."
        · rw [if_pos hdot] at h ⊢
          exact ih h
        · rw [if_neg hdot] at h ⊢
          exact ih h

theorem file?_cases {n : Node} (h : u.file? p = some n)
    (hfolder : ∀ a, u.get? a = some .folder → t.get? a = some .folder) (hhome : u.home = t.home) :
    ∃ at_, u.get? at_ = some n ∧ (t.get? at_ = some n → t.file? p = some n) := by
  obtain ⟨content, stamp, rfl, hn⟩ := file?_eq_some_iff.1 h
  obtain ⟨at_, hlocate, hat⟩ := Option.bind_eq_some_iff.1 hn
  refine ⟨at_, hat, fun ht => file?_eq_some_iff.2 ⟨content, stamp, rfl, ?_⟩⟩
  have hbase : u.base p = t.base p := by rw [base, base, hhome]
  have hwalk : t.locate p = .ok at_ := by
    rw [locate, ← hbase]
    exact walk_mono hfolder (Outcome.toOption_eq_some_iff.1 hlocate) (by rw [ht]; rfl)
  rw [node?, hwalk]
  exact ht

theorem Proper.write (h : t.Proper) {at_ : Place} (hdot : "." ∉ at_) (hdots : ".." ∉ at_) (content : ByteArray)
    (stamp : Int) : (t.write at_ content stamp).Proper := by
  intro k hk
  rw [Tree.write, Table.keys_insert] at hk
  split at hk
  · exact h k hk
  · rcases List.mem_append.1 hk with hk | hk
    · exact h k hk
    · rw [List.mem_singleton.1 hk]
      exact ⟨hdot, hdots⟩

def Before (t : Tree) (time : Int) : Prop :=
  ∀ a content stamp, t.get? a = some (.file content stamp) → stamp < time

theorem Before.mono {time time' : Int} (h : t.Before time) (hle : time ≤ time') : t.Before time' := by
  intro a content stamp ha
  have := h a content stamp ha
  omega

theorem Before.write {time time' : Int} (h : t.Before time) (hle : time ≤ time') {at_ : Place} (hne : at_ ≠ [])
    {stamp : Int} (hs : stamp < time') (content : ByteArray) : (t.write at_ content stamp).Before time' := by
  intro a content' stamp' ha
  rw [get?_write hne] at ha
  split at ha
  · cases ha
    exact hs
  · have := h a content' stamp' ha
    omega

theorem follows_write (hp : t.Proper) {at_ : Place} (hne : at_ ≠ []) (hdot : "." ∉ at_) (hdots : ".." ∉ at_)
    {stamp : Int} (hbefore : ∀ v ∈ t :: past, v.Before stamp) (content : ByteArray) :
    (t.write at_ content stamp).Follows t past := by
  have hfolder : ∀ a, (t.write at_ content stamp).get? a = some .folder → t.get? a = some .folder := by
    intro a ha
    rw [get?_write hne] at ha
    split at ha
    · cases ha
    · exact ha
  have hunused : ∀ v ∈ t :: past, ∀ p, v.stamp? p ≠ some stamp := by
    intro v hv p hs
    obtain ⟨content', hn⟩ := stamp?_eq_some_iff.1 hs
    obtain ⟨a, _, ha⟩ := Option.bind_eq_some_iff.1 hn
    have := hbefore v hv a content' stamp ha
    omega
  refine ⟨rfl, hp.write hdot hdots content stamp, fun p => ?_⟩
  cases hf : (t.write at_ content stamp).file? p with
  | none => exact .inr (.inl rfl)
  | some n =>
    obtain ⟨other, hother, hkept⟩ := file?_cases hf hfolder rfl
    rw [get?_write hne] at hother
    split at hother
    · have hstamp : (t.write at_ content stamp).stamp? p = some stamp := by
        rw [stamp?_eq, hf, ← Option.some.inj hother]
        rfl
      rw [hstamp]
      exact .inr (.inr fun v hv => hunused v hv p)
    · exact .inl (hkept hother).symm

namespace History

theorem proper (h : History trees) : ∀ t ∈ trees, t.Proper := by
  induction h with
  | single hp => simpa using hp
  | next h hf ih => exact List.forall_mem_cons.2 ⟨hf.proper, ih⟩

theorem home (h : History (u :: past)) : ∀ t ∈ past, t.home = u.home := by
  induction past generalizing u with
  | nil => simp
  | cons t past ih =>
    cases h with
    | next h hf =>
      intro v hv
      rcases List.mem_cons.1 hv with rfl | hv
      · exact hf.home.symm
      · rw [hf.home, ih h v hv]

theorem home_eq (h : History (u :: past)) (ht : t ∈ u :: past) : t.home = u.home := by
  rcases List.mem_cons.1 ht with rfl | ht
  · rfl
  · exact h.home t ht

theorem file?_eq (h : History (u :: past)) (hs : t :: older <:+ u :: past) {v : Tree} (hv : v ∈ t :: older)
    {stamp : Int} (hvs : v.stamp? p = some stamp) (hus : u.stamp? p = some stamp) : t.file? p = u.file? p := by
  induction past generalizing u with
  | nil =>
    rcases List.suffix_cons_iff.1 hs with heq | hs
    · cases heq
      rfl
    · cases List.suffix_nil.1 hs
  | cons w past ih =>
    rcases List.suffix_cons_iff.1 hs with heq | hs
    · cases heq
      rfl
    · cases h with
      | next h hf =>
        rcases hf.fresh p with hkept | hnone | hfresh
        · rw [hkept]
          rw [stamp?_eq, hkept, ← stamp?_eq] at hus
          exact ih h hs hus
        · rw [file?_eq_none_iff.1 hnone] at hus
          cases hus
        · exact absurd (hvs.trans hus.symm) (hfresh v (hs.subset hv))

theorem file?_eq_of_mem (h : History (u :: past)) (ht : t ∈ u :: past) {stamp : Int}
    (hts : t.stamp? p = some stamp) (hus : u.stamp? p = some stamp) : t.file? p = u.file? p := by
  obtain ⟨newer, older, he⟩ := List.append_of_mem ht
  exact file?_eq h ⟨newer, he.symm⟩ (List.mem_cons_self ..) hts hus

theorem settled (h : History trees) (p : Path) : Settled trees p := by
  induction h with
  | single hp => simp_all [Settled]
  | @next u t past h hf ih =>
    have hu : ∀ v ∈ u :: t :: past, ∀ content content' stamp, v.node? p = some (.file content stamp) →
        u.node? p = some (.file content' stamp) → content = content' := by
      intro v hv content content' stamp hn hn'
      have hfile := file?_eq_of_mem (h.next hf) hv (stamp?_eq_some_iff.2 ⟨content, hn⟩)
        (stamp?_eq_some_iff.2 ⟨content', hn'⟩)
      rw [Tree.file?, Tree.file?, hn, hn'] at hfile
      cases hfile
      rfl
    intro v hv w hw content content' stamp hn hn'
    rcases List.mem_cons.1 hw with rfl | hwp
    · exact hu v hv content content' stamp hn hn'
    · rcases List.mem_cons.1 hv with rfl | hvp
      · exact (hu w hw content' content stamp hn' hn).symm
      · exact ih v hvp w hwp content content' stamp hn hn'

end History

end Tree

end UtilityCss
