import UtilityCss.Proofs.Watch.Agreement

namespace UtilityCss

variable [Document.Host] {t u l s : Tree} {past older : List Tree} {config : Option Path} {p : Path}

namespace Watch

theorem agree_of_snapshots {trees : List Tree} (ht : t ∈ trees) (hu : u ∈ trees)
    (hs : ∀ p, Tree.Settled trees p) (hhome : t.home = u.home) {stamps stamps' : Table Path Int}
    (hst : snapshot t config = .ok stamps) (hsu : snapshot u config = .ok stamps')
    (heq : ∀ p, stamps.get? p = stamps'.get? p) : Agree config t u := by
  suffices h : ∀ {t u : Tree} {stamps stamps' : Table Path Int}, t ∈ trees → u ∈ trees → t.home = u.home →
      snapshot t config = .ok stamps → snapshot u config = .ok stamps' →
      (∀ p, stamps.get? p = stamps'.get? p) → ∀ p, Watches t config p → t.file? p = u.file? p by
    intro p hp
    rcases hp with hp | hp
    · exact h ht hu hhome hst hsu heq p hp
    · exact (h hu ht hhome.symm hsu hst (fun p => (heq p).symm) p hp).symm
  intro t u stamps stamps' ht hu hhome hst hsu heq p hp
  cases hf : t.stamp? p with
  | some stamp =>
    have hseen : stamps.get? p = some stamp := (get?_snapshot_eq_some_iff hst).2 ⟨hp, hf⟩
    rw [heq] at hseen
    exact (hs p).file? ht hu hf ((get?_snapshot_eq_some_iff hsu).1 hseen).2
  | none =>
    -- only the path of the configuration is watched without a file
    obtain ⟨c, hc⟩ := exists_reload_of_snapshot hst
    obtain ⟨c', hc'⟩ := exists_reload_of_snapshot hsu
    have hconfig := config_of_watches hc hp (Tree.file?_eq_none_iff.2 hf)
    have hpu : Watches u config p := by
      rw [resolved_eq hhome] at hconfig
      exact (watches_iff hc').2 (.inl hconfig)
    have hunseen := (get?_snapshot hsu p).1 hpu
    rw [← heq, (get?_snapshot hst p).1 hp, hf] at hunseen
    rw [Tree.file?_eq_none_iff.2 hf, Tree.file?_eq_none_iff.2 hunseen.symm]

theorem file?_eq_since (h : Tree.History (u :: past)) (hsuffix : t :: older <:+ u :: past)
    (hl : l ∈ t :: older) {stamps stamps' : Table Path Int} (hsl : snapshot l config = .ok stamps)
    (hsu : snapshot u config = .ok stamps') (heq : ∀ p, stamps.get? p = stamps'.get? p)
    (hp : Watches u config p) (hfile : u.isFile p = true) : t.file? p = u.file? p := by
  obtain ⟨stamp, hstamp⟩ := Tree.isFile_iff_stamp?.1 hfile
  have hseen : stamps'.get? p = some stamp := (get?_snapshot_eq_some_iff hsu).2 ⟨hp, hstamp⟩
  rw [← heq] at hseen
  exact h.file?_eq hsuffix hl ((get?_snapshot_eq_some_iff hsl).1 hseen).2 hstamp

theorem agree_of_kept (htp : t.Proper) (hup : u.Proper) (hhome : t.home = u.home) {c : Config}
    (ht : Config.reload t config = .ok c) (hu : Config.reload u config = .ok c)
    (hsame : ∀ p, Watches u config p → u.isFile p = true → t.file? p = u.file? p)
    (hkept : ∀ p, Watches t config p → t.isFile p = true → u.isFile p = true) : Agree config t u := by
  intro p hp
  have hboth : u.isFile p = true → t.file? p = u.file? p := by
    intro hfile
    apply hsame p _ hfile
    rcases hp with hp | hp
    · exact watches_of_isFile htp hhome ht hu hp hfile
    · exact hp
  by_cases hfile : u.isFile p = true
  · exact hboth hfile
  · have hnone : ¬ t.isFile p = true := by
      intro htf
      rcases hp with hp | hp
      · exact hfile (hkept p hp htf)
      · exact hfile (hkept p (watches_of_isFile hup hhome.symm hu ht hp htf) htf)
    rw [Tree.isFile_eq, Option.not_isSome_iff_eq_none] at hfile hnone
    rw [hfile, hnone]

theorem agree_between (h : Tree.History (u :: past)) (hsuffix : t :: older <:+ u :: past)
    (hl : l ∈ t :: older) {stamps stamps' : Table Path Int} (hsl : snapshot l config = .ok stamps)
    (hsu : snapshot u config = .ok stamps') (heq : ∀ p, stamps.get? p = stamps'.get? p) {c : Config}
    (hc : Config.reload t config = .ok c) (hsm : s ∈ u :: past) (hs : Agree config s u)
    (hkept : ∀ p, Watches t config p → t.isFile p = true → s.isFile p = true ∨ u.isFile p = true) :
    Agree config t u := by
  have ht : t ∈ u :: past := hsuffix.subset (List.mem_cons_self ..)
  have hup : u.Proper := h.proper u (List.mem_cons_self ..)
  have hhome := h.home_eq ht
  obtain ⟨cu, hcu⟩ := exists_reload_of_snapshot hsu
  have hcs : Config.reload s config = .ok cu := hs.symm.reload_eq (h.home_eq hsm).symm hcu
  have hthere : ∀ p, Watches u config p → u.isFile p = true → t.file? p = u.file? p :=
    fun p => file?_eq_since h hsuffix hl hsl hsu heq
  -- the configuration file comes first, since what is watched depends on it
  have hconfig : ∀ p ∈ config.map u.resolved, t.file? p = u.file? p := by
    intro p hp
    have hpu : Watches u config p := (watches_iff hcu).2 (.inl hp)
    have hpt : Watches t config p := by
      rw [← resolved_eq hhome] at hp
      exact (watches_iff hc).2 (.inl hp)
    have hsfile : s.isFile p = u.isFile p := by rw [Tree.isFile_eq, hs p (.inr hpu), ← Tree.isFile_eq]
    by_cases hfile : u.isFile p = true
    · exact hthere p hpu hfile
    · have hnone : ¬ t.isFile p = true := by
        intro htf
        have hlooked := hkept p hpt htf
        rw [hsfile, or_self] at hlooked
        exact hfile hlooked
      rw [Tree.isFile_eq, Option.not_isSome_iff_eq_none] at hfile hnone
      rw [hfile, hnone]
  have hct : Config.reload t config = .ok cu := by
    rw [← hcu]
    exact reload_congr hhome hconfig
  apply agree_of_kept (h.proper t ht) hup hhome hct hcu hthere
  intro p hp htf
  rcases hkept p hp htf with hsf | huf
  · have hps : Watches s config p :=
      watches_of_isFile (h.proper t ht) (hhome.trans (h.home_eq hsm).symm) hct hcs hp hsf
    rwa [Tree.isFile_eq, hs p (.inl hps), ← Tree.isFile_eq] at hsf
  · exact huf

theorem snapshot_of_poll {w w' : Watch} {changed : List Path} (h : w.poll t = .ok (changed, w')) :
    snapshot t w.config = .ok w'.stamps ∧ w'.config = w.config ∧
      changed = changes w.stamps w'.stamps := by
  rw [poll] at h
  cases hs : snapshot t w.config with
  | error e =>
    rw [hs] at h
    cases h
  | ok stamps =>
    rw [hs] at h
    cases h
    exact ⟨rfl, rfl, rfl⟩

theorem snapshot_of_start {w w' : Watch} (h : w.start t = .ok w') :
    snapshot t w.config = .ok w'.stamps ∧ w'.config = w.config := by
  rw [start] at h
  cases hs : snapshot t w.config with
  | error e =>
    rw [hs] at h
    cases h
  | ok stamps =>
    rw [hs] at h
    cases h
    exact ⟨rfl, rfl⟩

theorem get?_of_rest {w w' : Watch} (h : w.poll t = .ok ([], w')) (p : Path) :
    w.stamps.get? p = w'.stamps.get? p := by
  by_contra hne
  have hmem := mem_changes.2 hne
  rw [← (snapshot_of_poll h).2.2] at hmem
  cases hmem

theorem watches_of_no_content {c : Config} (hc : Config.reload t config = .ok c) (hcontent : c.content = [])
    (p : Path) : Watches t config p ↔ p ∈ config.map t.resolved := by
  rw [watches_iff hc, hcontent, Content.mem_files]
  simp

theorem exists_snapshot {c : Config} (hc : Config.reload t config = .ok c) :
    ∃ stamps, snapshot t config = .ok stamps := by
  rw [snapshot, files, hc]
  exact ⟨_, rfl⟩

theorem poll_of_snapshot {before after : Table Path Int}
    (h : snapshot t config = .ok after) :
    poll ⟨config, before⟩ t = .ok (changes before after, ⟨config, after⟩) := by
  rw [poll, h]
  rfl

theorem start_of_snapshot {w : Watch} {stamps : Table Path Int} (h : snapshot t w.config = .ok stamps) :
    w.start t = .ok ⟨w.config, stamps⟩ := by
  rw [start, h]
  rfl

end Watch

end UtilityCss
