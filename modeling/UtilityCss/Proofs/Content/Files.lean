import UtilityCss.Content
import UtilityCss.Proofs.Files.Locality

namespace UtilityCss

variable {t u : Tree} {p : Path}

namespace Content

theorem mem_distinct {ps : List Path} : p ∈ distinct ps ↔ p ∈ ps := by
  induction ps with
  | nil => rfl
  | cons q ps ih =>
    rw [distinct] at ih
    rw [distinct, List.foldr_cons, List.mem_cons, ← ih]
    split
    · rename_i hq
      constructor
      · exact .inr
      · rintro (rfl | hp)
        · exact List.contains_iff_mem.1 hq
        · exact hp
    · exact List.mem_cons

theorem Search.mem_files {search : Search} {dir : Path} {patterns : List String} :
    p ∈ search.files t dir patterns ↔
      (∃ pattern ∈ patterns, ∃ e ∈ Pattern.expandBraces pattern, p ∈ search t dir e) ∧ t.isFile p = true := by
  simp only [files, Path.sorted, List.mem_mergeSort, mem_distinct, List.mem_flatMap, matching, List.mem_filter]
  constructor
  · rintro ⟨pattern, hpattern, e, he, hfound, hfile⟩
    exact ⟨⟨pattern, hpattern, e, he, hfound⟩, hfile⟩
  · rintro ⟨⟨pattern, hpattern, e, he, hfound⟩, hfile⟩
    exact ⟨pattern, hpattern, e, he, hfound, hfile⟩

theorem mem_files {dir : Path} {patterns : List String} :
    p ∈ files t dir patterns ↔ (∃ pattern ∈ patterns, ∃ e ∈ Pattern.expandBraces pattern, p ∈ t.glob dir e) ∧
      t.isFile p = true :=
  Search.mem_files

theorem mem_files_of_isFile (hp : t.Proper) (hhome : t.home = u.home) {dir : Path} {patterns : List String}
    (h : p ∈ files t dir patterns) (hu : u.isFile p = true) : p ∈ files u dir patterns := by
  obtain ⟨⟨pattern, hpattern, e, he, hglob⟩, ht⟩ := mem_files.1 h
  exact mem_files.2 ⟨⟨pattern, hpattern, e, he, Tree.mem_glob_of_isFile hp hhome ht hu hglob⟩, hu⟩

theorem classesOf_file {content : ByteArray} {stamp : Int} (h : t.file? p = some (.file content stamp)) :
    classesOf t p = ((Tree.textOf? content).map Markup.classes).getD [] := by
  obtain ⟨_, _, ⟨⟩, hn⟩ := Tree.file?_eq_some_iff.1 h
  rw [classesOf, hn]

theorem classesOf_of_no_file (h : t.file? p = none) : classesOf t p = [] := by
  rw [classesOf]
  split
  · rename_i content stamp hn
    rw [Tree.file?, hn] at h
    cases h
  · rfl

theorem classesOf_congr (h : t.file? p = u.file? p) : classesOf t p = classesOf u p := by
  cases ht : t.file? p with
  | none => rw [classesOf_of_no_file ht, classesOf_of_no_file (h ▸ ht)]
  | some n =>
    obtain ⟨content, stamp, rfl, _⟩ := Tree.file?_eq_some_iff.1 ht
    rw [classesOf_file ht, classesOf_file (h ▸ ht)]

end Content

end UtilityCss
