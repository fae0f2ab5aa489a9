import UtilityCss.Files.Glob
import UtilityCss.Proofs.Files.Stamps
import UtilityCss.Proofs.Table

namespace UtilityCss

namespace Tree

variable {t u : Tree}

theorem mem_keys_of_get? {at_ : Place} (hne : at_ ≠ []) (h : (t.get? at_).isSome = true) : at_ ∈ t.nodes.keys := by
  rw [get?, if_neg (by simpa using hne)] at h
  exact (t.nodes.contains_iff at_).1 h

theorem walk_append (t : Tree) (here : Place) (ps qs : List String) :
    t.walk here (ps ++ qs) = (t.walk here ps).bind fun mid => t.walk mid qs := by
  induction ps generalizing here with
  | nil =>
    rw [List.nil_append, walk]
    split
    · rfl
    · rename_i hnone
      rw [Option.not_isSome_iff_eq_none] at hnone
      cases qs with
      | nil => simp [walk, hnone, Except.bind]
      | cons q qs => simp [walk, hnone, Except.bind]
  | cons p ps ih =>
    rw [List.cons_append, walk, walk]
    split
    · rfl
    · rfl
    · split
      · exact ih _
      · split
        · exact ih _
        · exact ih _

theorem isSome_get?_walk {here at_ : Place} {ps : List String} (h : t.walk here ps = .ok at_) :
    (t.get? at_).isSome = true := by
  induction ps generalizing here with
  | nil =>
    rw [walk] at h
    split at h
    · cases h
      assumption
    · cases h
  | cons p ps ih =>
    rw [walk] at h
    split at h
    · cases h
    · cases h
    · split at h
      · exact ih h
      · split at h
        · exact ih h
        · exact ih h

theorem isFolderAt_of_walk {here at_ : Place} {ps : List String} (hne : ps ≠ []) (h : t.walk here ps = .ok at_) :
    t.isFolderAt here = true := by
  cases ps with
  | nil => exact absurd rfl hne
  | cons p ps =>
    rw [walk] at h
    split at h
    · cases h
    · cases h
    · rename_i hfolder
      rw [isFolderAt, hfolder]
      rfl

theorem walk_unique {here a b : Place} {ps : List String} (ht : t.walk here ps = .ok a)
    (hu : u.walk here ps = .ok b) : a = b := by
  induction ps generalizing here with
  | nil =>
    rw [walk] at ht hu
    split at ht <;> split at hu <;> cases ht <;> cases hu
    rfl
  | cons p ps ih =>
    rw [walk] at ht hu
    split at ht <;> split at hu <;> try contradiction
    split at ht
    · rw [if_pos ‹p = ".."›] at hu
      exact ih ht hu
    · rw [if_neg ‹¬ p = ".."›] at hu
      split at ht
      · rw [if_pos ‹p = "."›] at hu
        exact ih ht hu
      · rw [if_neg ‹¬ p = "."›] at hu
        exact ih ht hu

theorem walk_names {here at_ : Place} {ps : List String} (h : t.walk here ps = .ok at_) (hdot : "." ∉ ps)
    (hdots : ".." ∉ ps) : at_ = here ++ ps := by
  induction ps generalizing here with
  | nil =>
    rw [walk] at h
    split at h
    · cases h
      rw [List.append_nil]
    · cases h
  | cons p ps ih =>
    rw [List.mem_cons, not_or] at hdot hdots
    rw [walk] at h
    split at h
    · cases h
    · cases h
    · rw [if_neg (Ne.symm hdots.1), if_neg (Ne.symm hdot.1)] at h
      rw [ih h hdot.2 hdots.2, List.append_assoc, List.singleton_append]

theorem locate_append (t : Tree) (dir : Path) (more : List String) :
    t.locate ⟨dir.absolute, dir.parts ++ more⟩ = (t.locate dir).bind fun at_ => t.walk at_ more :=
  walk_append t (t.base dir) dir.parts more

theorem exists_locate_of_node? {p : Path} (h : (t.node? p).isSome = true) : ∃ at_, t.locate p = .ok at_ := by
  rw [node?] at h
  cases hl : t.locate p with
  | ok at_ => exact ⟨at_, rfl⟩
  | error e =>
    rw [hl] at h
    cases h

theorem isSome_node?_of_isFile {p : Path} (h : t.isFile p = true) : (t.node? p).isSome = true := by
  rw [isFile] at h
  cases hn : t.node? p with
  | none =>
    rw [hn] at h
    cases h
  | some n => rfl

theorem walk_of_isFile {dir : Path} {more : List String} {at_ : Place} (hl : t.locate dir = .ok at_)
    (hu : u.isFile ⟨dir.absolute, dir.parts ++ more⟩ = true) (hhome : t.home = u.home) :
    u.locate dir = .ok at_ ∧ ∃ end_, u.walk at_ more = .ok end_ := by
  obtain ⟨end_, hend⟩ := exists_locate_of_node? (isSome_node?_of_isFile hu)
  rw [locate_append] at hend
  cases hd : u.locate dir with
  | error e =>
    rw [hd] at hend
    cases hend
  | ok at' =>
    have hbase : u.base dir = t.base dir := by rw [base, base, hhome]
    rw [locate, hbase] at hd
    rw [locate, hbase, hd] at hend
    obtain rfl := walk_unique hl hd
    exact ⟨rfl, end_, hend⟩

theorem names_mem_keys {here at_ : Place} {ps qs : List String} (hne : ps ≠ [])
    (h : u.walk here (ps ++ qs) = .ok at_) (hdot : "." ∉ ps) (hdots : ".." ∉ ps) : here ++ ps ∈ u.nodes.keys := by
  rw [walk_append] at h
  cases hw : u.walk here ps with
  | error e =>
    rw [hw] at h
    cases h
  | ok mid =>
    have hmid : mid = here ++ ps := walk_names hw hdot hdots
    apply mem_keys_of_get? (by simp [hne])
    rw [← hmid]
    exact isSome_get?_walk hw

theorem Proper.notMem_dots (h : t.Proper) {k at_ : Place} {ps : List String} (hk : k ∈ t.nodes.keys)
    (he : k = at_ ++ ps) : "." ∉ ps ∧ ".." ∉ ps := by
  obtain ⟨hdot, hdots⟩ := h k hk
  rw [he] at hdot hdots
  exact ⟨fun hm => hdot (List.mem_append_right _ hm), fun hm => hdots (List.mem_append_right _ hm)⟩

theorem mem_below_iff {at_ : Place} {more : List String} :
    more ∈ t.below at_ ↔ more ≠ [] ∧ more.any isHidden = false ∧ at_ ++ more ∈ t.nodes.keys := by
  simp only [below, List.mem_filterMap, Option.ite_none_right_eq_some, Bool.and_eq_true,
    List.isPrefixOf_iff_prefix, Bool.not_eq_true', List.isEmpty_eq_false_iff, Option.some.injEq]
  constructor
  · rintro ⟨k, hk, ⟨⟨⟨rest, rfl⟩, hne⟩, hhidden⟩, rfl⟩
    rw [List.drop_left] at hne hhidden ⊢
    exact ⟨hne, hhidden, hk⟩
  · rintro ⟨hne, hhidden, hk⟩
    refine ⟨_, hk, ⟨⟨List.prefix_append .., ?_⟩, ?_⟩, ?_⟩
    · rwa [List.drop_left]
    · rwa [List.drop_left]
    · rw [List.drop_left]

theorem mem_names_iff {at_ : Place} {n : String} : n ∈ t.names at_ ↔ at_ ++ [n] ∈ t.nodes.keys := by
  simp only [names, List.mem_filterMap, Option.ite_none_right_eq_some, Bool.and_eq_true,
    List.isPrefixOf_iff_prefix, decide_eq_true_eq]
  constructor
  · rintro ⟨k, hk, ⟨⟨rest, rfl⟩, hlen⟩, hlast⟩
    have hone : rest.length = 1 := by simpa using hlen
    obtain ⟨m, rfl⟩ := List.length_eq_one_iff.1 hone
    rw [List.getLast?_append_of_ne_nil _ (by simp), List.getLast?_singleton] at hlast
    rwa [← Option.some.inj hlast]
  · intro hk
    exact ⟨_, hk, ⟨List.prefix_append .., by simp⟩, by simp⟩

theorem mem_globPart_of_isFile (hp : t.Proper) (hhome : t.home = u.home) {dir : Path} {part : String}
    {more rest : List String} (h : more ∈ t.globPart dir part)
    (ht : t.isFile ⟨dir.absolute, dir.parts ++ (more ++ rest)⟩ = true)
    (hu : u.isFile ⟨dir.absolute, dir.parts ++ (more ++ rest)⟩ = true) : more ∈ u.globPart dir part := by
  unfold globPart at h
  cases hl : t.locate dir with
  | error e =>
    rw [hl] at h
    cases h
  | ok at_ =>
    obtain ⟨hlu, end_, hwalk⟩ := walk_of_isFile hl hu hhome
    simp only [hl] at h
    split at h
    · cases h
    rename_i hfolder
    rw [Bool.not_eq_true, Bool.not_eq_false'] at hfolder
    have hne : more ++ rest ≠ [] := by
      intro hnil
      rw [hnil, List.append_nil, isFile, node?, show t.locate ⟨dir.absolute, dir.parts⟩ = .ok at_ from hl] at ht
      cases hg : t.get? at_ with
      | none => simp [Except.toOption, hg] at ht
      | some n => cases n <;> simp [Except.toOption, hg, isFolderAt, Node.isFolder] at ht hfolder
    have hfolderu := isFolderAt_of_walk hne hwalk
    rw [globPart, hlu]
    simp only [hfolderu, Bool.not_true, Bool.false_eq_true, if_false]
    split at h
    · rwa [if_pos (by assumption)]
    rw [if_neg (by assumption)]
    split at h
    · rw [if_pos (by assumption)]
      rcases List.mem_cons.1 h with rfl | hbelow
      · exact List.mem_cons_self ..
      · obtain ⟨hnil, hhidden, hk⟩ := mem_below_iff.1 hbelow
        obtain ⟨hdot, hdots⟩ := hp.notMem_dots hk rfl
        exact List.mem_cons_of_mem _ (mem_below_iff.2 ⟨hnil, hhidden, names_mem_keys hnil hwalk hdot hdots⟩)
    rw [if_neg (by assumption)]
    split at h
    · rw [if_pos (by assumption)]
      obtain ⟨n, hn, rfl⟩ := List.mem_map.1 h
      obtain ⟨hn, hmatches⟩ := List.mem_filter.1 hn
      obtain ⟨hdot, hdots⟩ := hp.notMem_dots (mem_names_iff.1 hn) rfl
      refine List.mem_map_of_mem (List.mem_filter.2 ⟨mem_names_iff.2 ?_, hmatches⟩)
      exact names_mem_keys (by simp) hwalk hdot hdots
    rw [if_neg (by assumption)]
    split at h
    · rw [List.mem_singleton] at h
      subst h
      rw [walk_append] at hwalk
      cases hw : u.walk at_ [part] with
      | error e =>
        rw [hw] at hwalk
        cases hwalk
      | ok mid =>
        have hchild : u.locate (dir.child part) = .ok mid := by
          rw [Path.child, locate_append, hlu]
          exact hw
        have hnode : (u.node? (dir.child part)).isSome = true := by
          rw [node?, hchild]
          exact isSome_get?_walk hw
        rw [if_pos hnode]
        exact List.mem_singleton_self _
    · cases h

theorem exists_eq_of_mem_globFrom {dir p : Path} {parts : List String} (h : p ∈ t.globFrom dir parts) :
    ∃ more, p = ⟨dir.absolute, dir.parts ++ more⟩ := by
  induction parts generalizing dir with
  | nil =>
    rw [globFrom, List.mem_singleton] at h
    exact ⟨[], by rw [h, List.append_nil]⟩
  | cons part parts ih =>
    rw [globFrom, List.mem_flatMap] at h
    obtain ⟨more, _, hp⟩ := h
    obtain ⟨rest, rfl⟩ := ih hp
    exact ⟨more ++ rest, by rw [List.append_assoc]⟩

theorem mem_globFrom_of_isFile (hp : t.Proper) (hhome : t.home = u.home) {p : Path} (ht : t.isFile p = true)
    (hu : u.isFile p = true) {dir : Path} {parts : List String} (h : p ∈ t.globFrom dir parts) :
    p ∈ u.globFrom dir parts := by
  induction parts generalizing dir with
  | nil => exact h
  | cons part parts ih =>
    rw [globFrom, List.mem_flatMap] at h ⊢
    obtain ⟨more, hmore, hfrom⟩ := h
    obtain ⟨rest, rfl⟩ := exists_eq_of_mem_globFrom hfrom
    simp only [List.append_assoc] at ht hu
    exact ⟨more, mem_globPart_of_isFile hp hhome hmore ht hu, ih hfrom⟩

theorem mem_glob_of_isFile (hp : t.Proper) (hhome : t.home = u.home) {p dir : Path} {pattern : String}
    (ht : t.isFile p = true) (hu : u.isFile p = true) (h : p ∈ t.glob dir pattern) : p ∈ u.glob dir pattern := by
  rw [glob] at h ⊢
  split at h
  · rw [if_pos (by assumption)]
    exact mem_globFrom_of_isFile hp hhome ht hu h
  · rw [if_neg (by assumption)]
    exact mem_globFrom_of_isFile hp hhome ht hu h

end Tree

end UtilityCss
