import UtilityCss.Build
import UtilityCss.Proofs.Config.Loading
import UtilityCss.Proofs.Content.Files
import UtilityCss.Proofs.Expansion.Collection
import UtilityCss.Watch

namespace UtilityCss

variable {t u v : Tree} {config : Option Path} {p : Path}

namespace Watch

theorem resolved_eq (hhome : t.home = u.home) : t.resolved = u.resolved := by
  funext q
  rw [Tree.resolved, Tree.resolved, hhome]

theorem baseDir_eq (hhome : t.home = u.home) : Config.baseDir t config = Config.baseDir u config := by
  cases config with
  | none => rw [Config.baseDir, Config.baseDir, Tree.homePath, Tree.homePath, hhome]
  | some q => rw [Config.baseDir, Config.baseDir, resolved_eq hhome]

variable [Document.Host]

def Watches (t : Tree) (config : Option Path) (p : Path) : Prop :=
  ∃ ps, files t config = .ok ps ∧ p ∈ ps

def Agree (config : Option Path) (t u : Tree) : Prop :=
  ∀ p, Watches t config p ∨ Watches u config p → t.file? p = u.file? p

theorem Agree.symm (h : Agree config t u) : Agree config u t :=
  fun p hp => (h p hp.symm).symm

theorem watches_iff {c : Config} (hc : Config.reload t config = .ok c) :
    Watches t config p ↔
      p ∈ config.map t.resolved ∨ p ∈ Content.files t (Config.baseDir t config) c.content := by
  rw [Watches, files, hc]
  simp only [Except.map, Except.ok.injEq, exists_eq_left', List.mem_append, Option.mem_toList, Option.mem_def]

theorem reload_congr (hhome : t.home = u.home) (h : ∀ p ∈ config.map u.resolved, t.file? p = u.file? p) :
    Config.reload t config = Config.reload u config := by
  cases config with
  | none => rfl
  | some q =>
    have hload : Config.load t (u.resolved q) = Config.load u (u.resolved q) := Config.load_congr (h _ rfl)
    rw [Config.reload, Config.reload, resolved_eq hhome, hload]

theorem Agree.reload_eq (h : Agree config t u) (hhome : t.home = u.home) {c : Config}
    (hc : Config.reload t config = .ok c) : Config.reload u config = .ok c := by
  rw [← hc]
  apply (reload_congr hhome _).symm
  intro p hp
  rw [← resolved_eq hhome] at hp
  exact h p (.inl ((watches_iff hc).2 (.inl hp)))

theorem watches_of_isFile (hp : t.Proper) (hhome : t.home = u.home) {c : Config}
    (ht : Config.reload t config = .ok c) (hu : Config.reload u config = .ok c) (h : Watches t config p)
    (hfile : u.isFile p = true) : Watches u config p := by
  rw [watches_iff ht, baseDir_eq hhome] at h
  rw [watches_iff hu]
  rcases h with h | h
  · exact .inl (resolved_eq hhome ▸ h)
  · exact .inr (Content.mem_files_of_isFile hp hhome h hfile)

theorem config_of_watches {c : Config} (hc : Config.reload t config = .ok c) (h : Watches t config p)
    (hfile : t.file? p = none) : p ∈ config.map t.resolved := by
  rcases (watches_iff hc).1 h with h | h
  · exact h
  · have hisFile := (Content.mem_files.1 h).2
    rw [Tree.isFile_eq, hfile] at hisFile
    cases hisFile

theorem Agree.watches (h : Agree config t u) (hp : t.Proper) (hhome : t.home = u.home) {c : Config}
    (hc : Config.reload t config = .ok c) (hw : Watches t config p) : Watches u config p := by
  have hcu := h.reload_eq hhome hc
  cases hf : t.file? p with
  | none =>
    have hconfig := config_of_watches hc hw hf
    rw [resolved_eq hhome] at hconfig
    exact (watches_iff hcu).2 (.inl hconfig)
  | some n =>
    apply watches_of_isFile hp hhome hc hcu hw
    rw [Tree.isFile_eq, ← h p (.inl hw), hf]
    rfl

theorem Agree.trans (h : Agree config t u) (h' : Agree config u v) (htp : t.Proper) (hvp : v.Proper)
    (htu : t.home = u.home) (huv : u.home = v.home) {c : Config} (hc : Config.reload t config = .ok c) :
    Agree config t v := by
  intro p hp
  have hcv := h'.reload_eq huv (h.reload_eq htu hc)
  have hu : Watches u config p := by
    rcases hp with hp | hp
    · exact h.watches htp htu hc hp
    · exact h'.symm.watches hvp huv.symm hcv hp
  rw [h p (.inr hu), h' p (.inl hu)]

theorem Agree.mem_classes (h : Agree config t u) (hp : t.Proper) (hhome : t.home = u.home) {c : Config}
    (hc : Config.reload t config = .ok c) {x : String}
    (hx : x ∈ Content.classes t (Config.baseDir t config) c.content) :
    x ∈ Content.classes u (Config.baseDir u config) c.content := by
  obtain ⟨p, hfiles, hx⟩ := List.mem_flatMap.1 hx
  have hfile : t.file? p = u.file? p := h p (.inl ((watches_iff hc).2 (.inr hfiles)))
  refine List.mem_flatMap.2 ⟨p, ?_, ?_⟩
  · rw [← baseDir_eq hhome]
    apply Content.mem_files_of_isFile hp hhome hfiles
    rw [Tree.isFile_eq, ← hfile, ← Tree.isFile_eq]
    exact (Content.mem_files.1 hfiles).2
  · rwa [← Content.classesOf_congr hfile]

theorem Agree.render_eq {o : Order} (h : Agree o.config t u) (htp : t.Proper) (hup : u.Proper)
    (hhome : t.home = u.home) {c : Config} (hc : Config.reload t o.config = .ok c) :
    o.render c t = o.render c u := by
  have hclasses (x : String) : x ∈ Content.classes t (Config.baseDir t o.config) c.content ↔
      x ∈ Content.classes u (Config.baseDir u o.config) c.content :=
    ⟨h.mem_classes htp hhome hc, h.symm.mem_classes hup hhome.symm (h.reload_eq hhome hc)⟩
  rw [Order.render, Order.render, Config.generateFrom, Config.generateFrom, Config.generate_congr hclasses]

theorem get?_snapshot {stamps : Table Path Int} (h : snapshot t config = .ok stamps) (p : Path) :
    (Watches t config p → stamps.get? p = t.stamp? p) ∧ (¬ Watches t config p → stamps.get? p = none) := by
  rw [snapshot] at h
  cases hf : files t config with
  | error e =>
    rw [hf] at h
    cases h
  | ok ps =>
    rw [hf] at h
    rw [← Except.ok.inj h, Table.get?_ofList_filterMap]
    have hwatches : Watches t config p ↔ p ∈ ps := by simp [Watches, hf]
    rw [hwatches]
    exact ⟨fun hp => if_pos hp, fun hp => if_neg hp⟩

theorem get?_snapshot_eq_some_iff {stamps : Table Path Int} (h : snapshot t config = .ok stamps) {stamp : Int} :
    stamps.get? p = some stamp ↔ Watches t config p ∧ t.stamp? p = some stamp := by
  obtain ⟨hyes, hno⟩ := get?_snapshot h p
  by_cases hw : Watches t config p
  · rw [hyes hw, and_iff_right hw]
  · simp [hno hw, hw]

theorem exists_reload_of_snapshot {stamps : Table Path Int} (h : snapshot t config = .ok stamps) :
    ∃ c, Config.reload t config = .ok c := by
  rw [snapshot, files] at h
  cases hc : Config.reload t config with
  | ok c => exact ⟨c, rfl⟩
  | error e =>
    rw [hc] at h
    cases h

end Watch

end UtilityCss
