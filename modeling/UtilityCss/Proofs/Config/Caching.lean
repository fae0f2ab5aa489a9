import Mathlib.Logic.Function.Basic
import UtilityCss.Proofs.Config.Loading
import UtilityCss.Proofs.Files.Stamps
import UtilityCss.Proofs.Outcome
import UtilityCss.Proofs.Table

namespace UtilityCss

namespace Config

structure Workshop where
  tree : Tree
  caches : String → Cache

inductive Action where
  | write (p : Path) (content : ByteArray) (stamp : Int)
  | touch (p : Path) (stamp : Int)
  | delete (p : Path)
  | reload (cache : Option String) (path : Option Path)
  | invalidate (cache : String) (path : Option Path)

namespace Workshop

def edited (w : Workshop) (e : Tree.Edit Unit) : Option Workshop :=
  match w.tree.edit e with
  | (.ok (), tree) => some { w with tree }
  | (.error _, _) => none

def withCache (w : Workshop) (name : String) (c : Cache) : Workshop :=
  { w with caches := Function.update w.caches name c }

@[simp] theorem caches_withCache (w : Workshop) (name : String) (c : Cache) : (w.withCache name c).caches name = c := by
  simp [withCache]

end Workshop

section Host

variable [Document.Host]

namespace Cache

/-- Every entry is what the file at its place gave in one of the trees, under the stamp of the entry. -/
def Faithful (c : Cache) (trees : List Tree) : Prop :=
  ∀ at_ e, c.entries.get? at_ = some e →
    ∃ t ∈ trees, t.stamp? ⟨true, at_⟩ = some e.stamp ∧ load t ⟨true, at_⟩ = .ok e.config

variable {c : Cache} {trees : List Tree} {t : Tree}

theorem faithful_of_empty (h : c.entries = .empty) : c.Faithful trees := by
  intro at_ e he
  rw [h, Table.get?_empty] at he
  cases he

theorem Faithful.subset {trees' : List Tree} (h : c.Faithful trees) (hs : trees ⊆ trees') :
    c.Faithful trees' := by
  intro at_ e he
  obtain ⟨t, ht, hstamp⟩ := h at_ e he
  exact ⟨t, hs ht, hstamp⟩

theorem Faithful.forget (h : c.Faithful trees) (at_ : Place) : (c.forget at_).Faithful trees := by
  intro at' e he
  rw [Cache.forget, Table.get?_erase] at he
  split at he
  · cases he
  · exact h at' e he

theorem Faithful.invalidate (h : c.Faithful trees) (path : Option Path) :
    (c.invalidate t path).Faithful trees := by
  cases path with
  | none => exact faithful_of_empty rfl
  | some p => exact h.forget _

theorem Faithful.store (h : c.Faithful trees) (ht : t ∈ trees) {at_ : Place} {stamp : Int} {config : Config}
    (hs : t.stamp? ⟨true, at_⟩ = some stamp) (hl : load t ⟨true, at_⟩ = .ok config) :
    (c.store at_ stamp config).Faithful trees := by
  intro at' e he
  rw [Cache.store, Table.get?_insert] at he
  split at he
  · rename_i hp
    subst hp
    rw [← Option.some.inj he]
    exact ⟨t, ht, hs, hl⟩
  · exact h at' e he

theorem Faithful.load_of_answer (h : c.Faithful trees) (ht : t ∈ trees) {p : Path}
    (hp : Tree.Settled trees (t.resolved p)) {e : Cached} (he : c.answer? t (some p) = some e) :
    load t (t.resolved p) = .ok e.config := by
  obtain ⟨hentry, hs⟩ := answer?_eq_some_iff.1 he
  obtain ⟨u, hu, hus, hl⟩ := h _ e hentry
  rw [load_congr (hp.file? ht hu hs hus)]
  exact hl

theorem reload_cases {p : Path} {r : Reload} (h : c.reload t (some p) = .ok r) :
    (∃ e, c.answer? t (some p) = some e ∧ r.cache = c ∧ r.config = e.config) ∨
    (∃ stamp, t.stamp? (t.resolved p) = some stamp ∧ load t (t.resolved p) = .ok r.config ∧
      r.cache = c.store (p.resolve t.home) stamp r.config) ∨
    (∃ why, load t (t.resolved p) = .error (.refused why) ∧ r.cache = c.forget (p.resolve t.home) ∧
      r.config = standard) := by
  cases ha : c.answer? t (some p) with
  | some e =>
    rw [reload_of_answer ha] at h
    rw [← Except.ok.inj h]
    exact .inl ⟨e, rfl, rfl, rfl⟩
  | none =>
    right
    rw [answer?, Tree.resolved] at ha
    rw [Cache.reload] at h
    rw [Tree.resolved]
    cases hs : t.stamp? ⟨true, p.resolve t.home⟩ with
    | none =>
      simp only [hs] at h
      rw [← Except.ok.inj h]
      exact .inr ⟨_, load_of_no_stamp hs, rfl, rfl⟩
    | some stamp =>
      rw [hs, Option.bind_some] at ha
      simp only [hs, ha] at h
      rw [read] at h
      cases hl : load t ⟨true, p.resolve t.home⟩ with
      | ok config =>
        rw [hl] at h
        rw [← Except.ok.inj h]
        exact .inl ⟨stamp, rfl, rfl, rfl⟩
      | error e =>
        rw [hl] at h
        cases e with
        | refused why =>
          rw [← Except.ok.inj h]
          exact .inr ⟨why, rfl, rfl, rfl⟩
        | fault f => cases h

theorem Faithful.reload (h : c.Faithful trees) (ht : t ∈ trees) {path : Option Path} {r : Reload}
    (hr : c.reload t path = .ok r) : r.cache.Faithful trees := by
  cases path with
  | none =>
    rw [← Except.ok.inj hr]
    exact h
  | some p =>
    rcases reload_cases hr with ⟨e, _, hc, _⟩ | ⟨stamp, hs, hl, hc⟩ | ⟨why, _, hc, _⟩
    · exact hc ▸ h
    · exact hc ▸ h.store ht hs hl
    · exact hc ▸ h.forget _

theorem Faithful.reload_eq (h : c.Faithful trees) (ht : t ∈ trees) {path : Option Path}
    (hp : ∀ p, path = some p → Tree.Settled trees (t.resolved p)) {r : Reload}
    (hr : c.reload t path = .ok r) : Config.reload t path = .ok r.config := by
  cases path with
  | none => rw [← Except.ok.inj hr, Config.reload]
  | some p =>
    rw [Config.reload]
    rcases reload_cases hr with ⟨e, he, _, hc⟩ | ⟨stamp, _, hl, _⟩ | ⟨why, hl, _, hc⟩
    · rw [h.load_of_answer ht (hp p rfl) he, hc]
    · rw [hl]
    · rw [hl, hc]

theorem Faithful.isSome_iff_loads (h : c.Faithful trees) (ht : t ∈ trees) {p : Path}
    (hp : Tree.Settled trees (t.resolved p)) {r : Reload} (hr : c.reload t (some p) = .ok r) :
    (r.cache.entries.get? (p.resolve t.home)).isSome = true ↔ ∃ config, load t (t.resolved p) = .ok config := by
  rcases reload_cases hr with ⟨e, he, hc, _⟩ | ⟨stamp, _, hl, hc⟩ | ⟨why, hl, hc, _⟩
  · rw [hc, (answer?_eq_some_iff.1 he).1, h.load_of_answer ht hp he]
    simp
  · rw [hc, hl, Cache.store]
    simp
  · rw [hc, hl, Cache.forget, Table.get?_erase]
    simp

theorem Faithful.exists_reload (h : c.Faithful trees) (ht : t ∈ trees) {path : Option Path}
    (hp : ∀ p, path = some p → Tree.Settled trees (t.resolved p)) {config : Config}
    (hc : Config.reload t path = .ok config) : ∃ r, c.reload t path = .ok r ∧ r.config = config := by
  cases hr : c.reload t path with
  | ok r =>
    have heq := h.reload_eq ht hp hr
    rw [hc] at heq
    exact ⟨r, rfl, (Except.ok.inj heq).symm⟩
  | error f =>
    cases ha : c.answer? t path with
    | some e =>
      rw [reload_of_answer ha] at hr
      cases hr
    | none =>
      rw [← reload_of_no_answer ha, hr] at hc
      cases hc

theorem get?_reload_of_ne {p : Path} {r : Reload} (hr : c.reload t (some p) = .ok r) {at_ : Place}
    (ha : p.resolve t.home ≠ at_) : r.cache.entries.get? at_ = c.entries.get? at_ := by
  rcases reload_cases hr with ⟨e, _, hc, _⟩ | ⟨stamp, _, _, hc⟩ | ⟨why, _, hc, _⟩
  · rw [hc]
  · rw [hc, Cache.store, Table.get?_insert, if_neg ha]
  · rw [hc, Cache.forget, Table.get?_erase, if_neg ha]

end Cache

namespace Workshop

def act (w : Workshop) : Action → Option (Workshop × Option Config)
  | .write p content stamp => (w.edited (Tree.save p content stamp)).map (·, none)
  | .touch p stamp => (w.edited (Tree.touch p stamp)).map (·, none)
  | .delete p => (w.edited (Tree.delete p)).map (·, none)
  | .reload none path => (Config.reload w.tree path).toOption.map fun c => (w, some c)
  | .reload (some name) path =>
    ((w.caches name).reload w.tree path).toOption.map fun r => (w.withCache name r.cache, some r.config)
  | .invalidate name path => some (w.withCache name ((w.caches name).invalidate w.tree path), none)

theorem act_reload {w : Workshop} {name : String} {path : Option Path} {r : Cache.Reload}
    (h : (w.caches name).reload w.tree path = .ok r) :
    w.act (.reload (some name) path) = some (w.withCache name r.cache, some r.config) := by
  rw [act, h]
  rfl

/-- The workshops that actions lead to from empty caches, each with the trees that there have been. -/
inductive Reached : List Tree → Workshop → Prop
  | start (t : Tree) : Reached [t] ⟨t, fun _ => .empty⟩
  | act {trees : List Tree} {w w' : Workshop} (a : Action) (answer : Option Config) :
      Reached trees w → w.act a = some (w', answer) → Reached (w'.tree :: trees) w'

theorem Reached.tree_mem {trees : List Tree} {w : Workshop} (h : Reached trees w) : w.tree ∈ trees := by
  cases h with
  | start t => exact List.mem_cons_self ..
  | act a answer hw ha => exact List.mem_cons_self ..

theorem faithful_withCache {w : Workshop} {trees : List Tree} (h : ∀ name, (w.caches name).Faithful trees)
    {name : String} {c : Cache} (hc : c.Faithful trees) :
    ∀ other, ((w.withCache name c).caches other).Faithful trees := by
  intro other
  show (Function.update w.caches name c other).Faithful trees
  rw [Function.update_apply]
  split
  · exact hc
  · exact h other

theorem faithful_act {w w' : Workshop} {trees : List Tree} {a : Action} {answer : Option Config}
    (h : ∀ name, (w.caches name).Faithful trees) (ht : w.tree ∈ trees) (ha : w.act a = some (w', answer)) :
    ∀ name, (w'.caches name).Faithful (w'.tree :: trees) := by
  have hedited {e : Tree.Edit Unit} (he : (w.edited e).map (·, none) = some (w', answer)) :
      ∀ name, (w'.caches name).Faithful trees := by
    obtain ⟨w₁, hw, hpair⟩ := Option.map_eq_some_iff.1 he
    rw [edited] at hw
    split at hw
    · rw [← (Prod.mk.inj hpair).1, ← Option.some.inj hw]
      exact h
    · cases hw
  -- an edit leaves the caches alone, so it is enough that they are faithful to the trees before
  suffices hold : ∀ name, (w'.caches name).Faithful trees by
    exact fun name => (hold name).subset (List.subset_cons_self _ _)
  cases a with
  | write p content stamp => exact hedited ha
  | touch p stamp => exact hedited ha
  | delete p => exact hedited ha
  | reload cache path =>
    cases cache with
    | none =>
      obtain ⟨c, _, hpair⟩ := Option.map_eq_some_iff.1 ha
      rw [← (Prod.mk.inj hpair).1]
      exact h
    | some name =>
      obtain ⟨r, hr, hpair⟩ := Option.map_eq_some_iff.1 ha
      rw [← (Prod.mk.inj hpair).1]
      exact faithful_withCache h ((h name).reload ht (Outcome.toOption_eq_some_iff.1 hr))
  | invalidate name path =>
    rw [← (Prod.mk.inj (Option.some.inj ha)).1]
    exact faithful_withCache h ((h name).invalidate path)

theorem Reached.faithful {trees : List Tree} {w : Workshop} (h : Reached trees w) :
    ∀ name, (w.caches name).Faithful trees := by
  induction h with
  | start t => exact fun name => Cache.faithful_of_empty rfl
  | act a answer hw ha ih => exact faithful_act ih hw.tree_mem ha

/-- After any actions, as long as no path has had one stamp with two contents: a reload with a cache answers
what one without would answer. It leaves an entry for its place exactly if the file loads, and no other entry
and no other cache is changed. -/
theorem reload_transparent {trees : List Tree} {w w' : Workshop} (h : Reached trees w)
    (hs : ∀ p, Tree.Settled trees p) {name : String} {path : Option Path} {answer : Option Config}
    (ha : w.act (.reload (some name) path) = some (w', answer)) :
    w.act (.reload none path) = some (w, answer) ∧
      (∀ p, path = some p → (((w'.caches name).entries.get? (p.resolve w.tree.home)).isSome = true ↔
        ∃ config, load w.tree (w.tree.resolved p) = .ok config)) ∧
      (∀ at_, (∀ p, path = some p → p.resolve w.tree.home ≠ at_) →
        (w'.caches name).entries.get? at_ = (w.caches name).entries.get? at_) ∧
      (∀ other, other ≠ name → w'.caches other = w.caches other) ∧ w'.tree = w.tree := by
  obtain ⟨r, hr, hpair⟩ := Option.map_eq_some_iff.1 ha
  obtain ⟨rfl, rfl⟩ := Prod.mk.inj hpair
  replace hr := Outcome.toOption_eq_some_iff.1 hr
  have hf := h.faithful name
  refine ⟨?_, ?_, ?_, fun other ho => Function.update_of_ne ho .., rfl⟩
  · rw [act, hf.reload_eq h.tree_mem (fun p _ => hs _) hr]
    rfl
  · rintro p rfl
    rw [caches_withCache]
    exact hf.isSome_iff_loads h.tree_mem (hs _) hr
  · intro at_ hne
    rw [caches_withCache]
    cases path with
    | none => rw [← Except.ok.inj hr]
    | some p => exact Cache.get?_reload_of_ne hr (hne p rfl)

end Workshop

end Host

namespace Workshop

theorem get?_folderWith {name text : String} {at_ : Place} {content : ByteArray} {stamp : Int}
    (h : (folderWith name text).get? at_ = some (.file content stamp)) :
    content = text.toUTF8 ∧ stamp = 1 := by
  rw [Tree.get?, folderWith] at h
  split at h
  · cases h
  · rw [Table.get?_insert] at h
    split at h
    · cases h
      exact ⟨rfl, rfl⟩
    · rw [Table.get?_insert] at h
      split at h <;> cases h

theorem act_folderWith (text : String) (content : ByteArray) (stamp : Int) (caches : String → Cache) :
    Workshop.act ⟨folderWith "q.json" text, caches⟩ (.write ⟨false, ["q.json"]⟩ content stamp) =
      some (⟨(folderWith "q.json" text).write ["p", "q.json"] content stamp, caches⟩, none) := by
  rfl

def older : Tree :=
  bannerFolder "a"

def newer : Tree :=
  older.write ["p", "q.json"] (bannerDocument "b").toUTF8 2

def rewrite : Action :=
  .write ⟨false, ["q.json"]⟩ (bannerDocument "b").toUTF8 2

theorem settled_older_newer (p : Path) : Tree.Settled [newer, older, older] p := by
  apply Tree.settled_of_stamps fun stamp =>
    if stamp = 1 then (bannerDocument "a").toUTF8 else (bannerDocument "b").toUTF8
  have holder : ∀ at_ content stamp, older.get? at_ = some (.file content stamp) →
      content = if stamp = 1 then (bannerDocument "a").toUTF8 else (bannerDocument "b").toUTF8 := by
    intro at_ content stamp h
    obtain ⟨hc, rfl⟩ := get?_folderWith h
    rw [hc, if_pos rfl]
  intro t ht at_ content stamp h
  simp only [List.mem_cons, List.not_mem_nil, or_false] at ht
  rcases ht with rfl | rfl | rfl
  · rw [newer, Tree.get?_write (by simp)] at h
    split at h
    · cases h
      rw [if_neg (by decide)]
    · exact holder at_ content stamp h
  · exact holder at_ content stamp h
  · exact holder at_ content stamp h

theorem reload_transparent_rewritten :
    ∃ trees w w' answer, Reached trees w ∧ (∀ p, Tree.Settled trees p) ∧ (w.caches "c").size = 1 ∧
      w.act (.reload (some "c") (some ⟨false, ["q.json"]⟩)) = some (w', some answer) ∧
      answer.banner = some "b" ∧ w.act (.reload none (some ⟨false, ["q.json"]⟩)) = some (w, some answer) := by
  have hrun : ((Cache.empty.reload older (some ⟨false, ["q.json"]⟩)).toOption.bind fun r =>
      (r.cache.reload newer (some ⟨false, ["q.json"]⟩)).toOption.map fun r' => (r.cache.size, r'.config.banner)) =
        some (1, some "b") := by
    decide +kernel
  obtain ⟨r, hr, hrun⟩ := Option.bind_eq_some_iff.1 hrun
  obtain ⟨r', hr', hanswer⟩ := Option.map_eq_some_iff.1 hrun
  obtain ⟨hsize, hbanner⟩ := Prod.mk.inj hanswer
  have hfirst : act ⟨older, fun _ => .empty⟩ (.reload (some "c") (some ⟨false, ["q.json"]⟩)) =
      some (withCache ⟨older, fun _ => .empty⟩ "c" r.cache, some r.config) :=
    act_reload (Outcome.toOption_eq_some_iff.1 hr)
  have hwrite : act (withCache ⟨older, fun _ => .empty⟩ "c" r.cache) rewrite =
      some (withCache ⟨newer, fun _ => .empty⟩ "c" r.cache, none) := act_folderWith ..
  have hreached := ((Reached.start older).act _ _ hfirst).act _ _ hwrite
  have hcached : ((withCache ⟨newer, fun _ => .empty⟩ "c" r.cache).caches "c").reload newer
      (some ⟨false, ["q.json"]⟩) = .ok r' := by
    rw [caches_withCache]
    exact Outcome.toOption_eq_some_iff.1 hr'
  have hlast := act_reload (w := withCache ⟨newer, fun _ => .empty⟩ "c" r.cache) hcached
  obtain ⟨huncached, _⟩ := reload_transparent hreached settled_older_newer hlast
  refine ⟨_, _, _, _, hreached, settled_older_newer, ?_, hlast, hbanner, huncached⟩
  rw [caches_withCache]
  exact hsize

end Workshop

end Config

end UtilityCss
