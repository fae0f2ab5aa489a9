import UtilityCss.Proofs.Watch.Building
import UtilityCss.Proofs.Watch.Looks

/-!
Builds that watch, step by step: a first build, the look that the watch starts with, then polls, each followed
by a build if it has found changes. Between any two steps the files may be edited.
-/

namespace UtilityCss

variable {t : Tree} {past : List Tree}

inductive Stage where
  | opening
  | waiting (again : Bool)
  | due

/-- A build that watches: what it has written last, and the files that its last build and its last look have
found. -/
structure Vigil where
  project : Project
  watch : Watch
  css : String
  used : Tree
  seen : Tree
  stage : Stage

namespace Vigil

section Host

variable [Document.Host]

/-- One step, or one edit of the files, after the trees that there have been before. -/
inductive Step (o : Order) (past : List Tree) : Vigil → Vigil → Prop
  | edit {v : Vigil} {u : Tree} : u.Follows v.project.tree past →
    Step o past v { v with project := { v.project with tree := u } }
  | start {v : Vigil} {w : Watch} : v.stage = .opening → v.watch.start v.project.tree = .ok w →
    Step o past v { v with watch := w, seen := v.project.tree, stage := .waiting false }
  | rest {v : Vigil} {w : Watch} {again : Bool} : v.stage = .waiting again →
    v.watch.poll v.project.tree = .ok ([], w) → Step o past v { v with watch := w, seen := v.project.tree }
  | notice {v : Vigil} {w : Watch} {again : Bool} {changed : List Path} : v.stage = .waiting again →
    changed ≠ [] → v.watch.poll v.project.tree = .ok (changed, w) →
    Step o past v { v with watch := w, seen := v.project.tree, stage := .due }
  | rebuild {v : Vigil} {stamp : Int} {b : Built} {project : Project} : v.stage = .due →
    (Project.build o stamp).run.run v.project = (.ok b, project) → project.tree.Follows v.project.tree past →
    Step o past v { v with project, css := b.css, used := v.project.tree, stage := .waiting true }

inductive Reached (o : Order) : List Tree → Vigil → Prop
  | opened {t : Tree} {stamp : Int} {b : Built} {project : Project} : t.Proper →
    (Project.build o stamp).run.run ⟨t, .empty⟩ = (.ok b, project) → project.tree.Follows t [] →
    Reached o [t] ⟨project, .new o.config, b.css, t, t, .opening⟩
  | step {past : List Tree} {v v' : Vigil} : Reached o past v → Step o past v v' →
    Reached o (v.project.tree :: past) v'

/-- What holds of a build that watches: its cache is faithful, the last stylesheet is that of the last build,
the last look is the baseline, and a build that was not the first comes after a look with this baseline. -/
structure Inv (o : Order) (past : List Tree) (v : Vigil) : Prop where
  history : Tree.History (v.project.tree :: past)
  cache : v.project.cache.Faithful (v.project.tree :: past)
  css : o.stylesheet v.used = .ok v.css
  config : v.watch.config = o.config
  seen : v.stage ≠ .opening → v.seen ∈ v.project.tree :: past ∧ Watch.snapshot v.seen o.config = .ok v.watch.stamps
  used : ∃ older, v.used :: older <:+ v.project.tree :: past ∧ (v.stage = .waiting true →
    ∃ l ∈ v.used :: older, ∃ stamps, Watch.snapshot l o.config = .ok stamps ∧
      ∀ p, stamps.get? p = v.watch.stamps.get? p)

variable {o : Order} {v v' : Vigil}

theorem inv_opened {stamp : Int} {b : Built} {project : Project} (ht : t.Proper)
    (hb : (Project.build o stamp).run.run ⟨t, .empty⟩ = (.ok b, project)) (hf : project.tree.Follows t []) :
    Inv o [t] ⟨project, .new o.config, b.css, t, t, .opening⟩ := by
  have hhistory := (Tree.History.single ht).next hf
  have hempty : Config.Cache.empty.Faithful [project.tree, t] := Config.Cache.faithful_of_empty rfl
  obtain ⟨hcss, hcache⟩ := Project.stylesheet_of_build hb hempty (by simp) hhistory.settled
  refine ⟨hhistory, hcache, hcss, rfl, fun hne => absurd rfl hne, [], ?_, nofun⟩
  exact List.suffix_cons ..

theorem inv_step (h : Inv o past v) (hs : Step o past v v') : Inv o (v.project.tree :: past) v' := by
  have hproper : v.project.tree.Proper := h.history.proper _ (List.mem_cons_self ..)
  have hsame : Tree.History (v.project.tree :: v.project.tree :: past) :=
    h.history.next (.refl hproper past)
  have hgrow : ∀ u : Tree, v.project.tree :: past ⊆ u :: v.project.tree :: past :=
    fun u => List.subset_cons_self ..
  obtain ⟨older, hsuffix, hused⟩ := h.used
  cases hs with
  | @edit u hf =>
    refine ⟨h.history.next hf, h.cache.subset (hgrow u), h.css, h.config, ?_, older, ?_, hused⟩
    · intro hne
      exact ⟨hgrow u (h.seen hne).1, (h.seen hne).2⟩
    · exact hsuffix.trans (List.suffix_cons ..)
  | @start w hstage hw =>
    obtain ⟨hsnap, hconfig⟩ := Watch.snapshot_of_start hw
    rw [h.config] at hsnap hconfig
    exact ⟨hsame, h.cache.subset (hgrow _), h.css, hconfig, fun _ => ⟨List.mem_cons_self .., hsnap⟩, older,
      hsuffix.trans (List.suffix_cons ..), nofun⟩
  | @rest w again hstage hw =>
    obtain ⟨hsnap, hconfig, _⟩ := Watch.snapshot_of_poll hw
    rw [h.config] at hsnap hconfig
    refine ⟨hsame, h.cache.subset (hgrow _), h.css, hconfig, fun _ => ⟨List.mem_cons_self .., hsnap⟩, older,
      hsuffix.trans (List.suffix_cons ..), fun hagain => ?_⟩
    obtain ⟨l, hl, stamps, hstamps, heq⟩ := hused hagain
    exact ⟨l, hl, stamps, hstamps, fun p => (heq p).trans (Watch.get?_of_rest hw p)⟩
  | @notice w again changed hstage hne hw =>
    obtain ⟨hsnap, hconfig, _⟩ := Watch.snapshot_of_poll hw
    rw [h.config] at hsnap hconfig
    exact ⟨hsame, h.cache.subset (hgrow _), h.css, hconfig, fun _ => ⟨List.mem_cons_self .., hsnap⟩, older,
      hsuffix.trans (List.suffix_cons ..), nofun⟩
  | @rebuild stamp b project hstage hb hf =>
    have hhistory := h.history.next hf
    obtain ⟨hcss, hcache⟩ := Project.stylesheet_of_build hb (h.cache.subset (hgrow project.tree))
      (hgrow _ (List.mem_cons_self ..)) hhistory.settled
    have hseen := h.seen (by rw [hstage]; nofun)
    refine ⟨hhistory, hcache, hcss, h.config, fun _ => ⟨hgrow _ hseen.1, hseen.2⟩, past, List.suffix_cons ..,
      fun _ => ⟨v.seen, hseen.1, v.watch.stamps, hseen.2, fun _ => rfl⟩⟩

theorem Reached.inv (h : Reached o past v) : Inv o past v := by
  induction h with
  | opened ht hb hf => exact inv_opened ht hb hf
  | step _ hs ih => exact inv_step ih hs

/-- The looks have missed nothing. The first build, if it is the last one, has found the watched files as the
last look has; a later one has used no file that both the last look and the files of now are without. -/
def Unmissed (o : Order) (v : Vigil) : Bool → Prop
  | false => Watch.Agree o.config v.used v.seen
  | true => ∀ p, Watch.Watches v.used o.config p → v.used.isFile p = true →
      v.seen.isFile p = true ∨ v.project.tree.isFile p = true

theorem Inv.exists_reload (h : Inv o past v) :
    ∃ c, Config.reload v.used o.config = .ok c ∧ (o.render c v.used).map Built.css = .ok v.css := by
  have hcss := h.css
  rw [Order.stylesheet] at hcss
  cases hc : Config.reload v.used o.config with
  | error f =>
    rw [hc] at hcss
    cases hcss
  | ok c =>
    rw [hc] at hcss
    exact ⟨c, rfl, hcss⟩

theorem Inv.agree_of_rest (h : Inv o past v) {again : Bool} (hw : v.stage = .waiting again) {w : Watch}
    (hp : v.watch.poll v.project.tree = .ok ([], w)) (hm : v.Unmissed o again) :
    Watch.Agree o.config v.used v.project.tree := by
  have hnow : v.project.tree ∈ v.project.tree :: past := List.mem_cons_self ..
  obtain ⟨hseen, hsnap⟩ := h.seen (by rw [hw]; nofun)
  obtain ⟨older, hsuffix, hused⟩ := h.used
  obtain ⟨c, hc, _⟩ := h.exists_reload
  obtain ⟨hsnapnow, _, _⟩ := Watch.snapshot_of_poll hp
  rw [h.config] at hsnapnow
  have hlooks : Watch.Agree o.config v.seen v.project.tree :=
    Watch.agree_of_snapshots hseen hnow h.history.settled (h.history.home_eq hseen) hsnap hsnapnow (Watch.get?_of_rest hp)
  cases again with
  | false =>
    -- no look stands before the first build, so its files are compared with those of the first look
    have husedmem : v.used ∈ v.project.tree :: past := hsuffix.subset (List.mem_cons_self ..)
    have hhome : v.used.home = v.seen.home := (h.history.home_eq husedmem).trans (h.history.home_eq hseen).symm
    exact hm.trans hlooks (h.history.proper _ husedmem) (h.history.proper _ hnow) hhome (h.history.home_eq hseen) hc
  | true =>
    obtain ⟨l, hl, stamps, hstamps, heq⟩ := hused hw
    have heqnow := fun p => (heq p).trans (Watch.get?_of_rest hp p)
    exact Watch.agree_between h.history hsuffix hl hstamps hsnapnow heqnow hc hseen hlooks hm

/-- When a poll reports nothing and the looks have missed nothing, the stylesheet written last is the one that
a build would write now, with the cache that it has or with none. -/
theorem stylesheet_of_rest (h : Reached o past v) {again : Bool} (hw : v.stage = .waiting again) {w : Watch}
    (hp : v.watch.poll v.project.tree = .ok ([], w)) (hm : v.Unmissed o again) :
    o.stylesheet v.project.tree = .ok v.css ∧
      ∀ cache ∈ [v.project.cache, .empty], ∀ stamp b project,
        (Project.build o stamp).run.run ⟨v.project.tree, cache⟩ = (.ok b, project) → b.css = v.css := by
  have hinv := h.inv
  have hnow : v.project.tree ∈ v.project.tree :: past := List.mem_cons_self ..
  have hused : v.used ∈ v.project.tree :: past := by
    obtain ⟨older, hsuffix, _⟩ := hinv.used
    exact hsuffix.subset (List.mem_cons_self ..)
  have hagree := hinv.agree_of_rest hw hp hm
  obtain ⟨c, hc, hcss⟩ := hinv.exists_reload
  have hstylesheet : o.stylesheet v.project.tree = .ok v.css := by
    have hhome := hinv.history.home_eq hused
    rw [Order.stylesheet, hagree.reload_eq hhome hc, Except.bind,
      ← hagree.render_eq (hinv.history.proper _ hused) (hinv.history.proper _ hnow) hhome hc]
    exact hcss
  refine ⟨hstylesheet, fun cache hcache stamp b project hb => ?_⟩
  -- both caches are faithful, and nothing else of them matters to a build
  have hfaithful : cache.Faithful (v.project.tree :: past) := by
    rcases List.mem_cons.1 hcache with rfl | hcache
    · exact hinv.cache
    · rw [List.mem_singleton.1 hcache]
      exact Config.Cache.faithful_of_empty rfl
  obtain ⟨hbuilt, _⟩ := Project.stylesheet_of_build hb hfaithful hnow hinv.history.settled
  rw [hstylesheet] at hbuilt
  exact (Except.ok.inj hbuilt).symm

end Host

def order : Order :=
  ⟨some ⟨false, ["q.json"]⟩, ⟨false, ["x.css"]⟩, false⟩

structure Banner (t : Tree) (banner : String) (stamp : Int) : Prop where
  home : t.home = ["p"]
  file : t.file? ⟨true, ["p", "q.json"]⟩ = some (.file (Config.bannerDocument banner).toUTF8 stamp)

structure Sets (t : Tree) (banner : String) (c : Config) : Prop where
  reload : Config.reload t order.config = .ok c
  banner : c.banner = some banner
  content : c.content = []

theorem Banner.reload_eq {banner : String} {stamp : Int} (h : Banner t banner stamp) :
    Config.reload t order.config = Config.reload (Config.bannerFolder banner) order.config := by
  have hfolder : (Config.bannerFolder banner).file? ⟨true, ["p", "q.json"]⟩ =
      some (.file (Config.bannerDocument banner).toUTF8 1) := rfl
  have hload : Config.load t ⟨true, ["p", "q.json"]⟩ =
      Config.load (Config.bannerFolder banner) ⟨true, ["p", "q.json"]⟩ := by
    rw [Config.load_eq_file?, Config.load_eq_file?, h.file, hfolder]
  have hresolved : t.resolved ⟨false, ["q.json"]⟩ = ⟨true, ["p", "q.json"]⟩ := by
    rw [Tree.resolved, h.home]
    rfl
  rw [order, Config.reload, Config.reload, hresolved, hload]
  rfl

def answer? (banner : String) : Option (Option String × List String) :=
  (Config.reload (Config.bannerFolder banner) order.config).toOption.map fun c => (c.banner, c.content)

theorem Banner.exists_sets {banner : String} {stamp : Int} (h : Banner t banner stamp)
    (ha : answer? banner = some (some banner, [])) : ∃ c, Sets t banner c := by
  obtain ⟨c, hc, hpair⟩ := Option.map_eq_some_iff.1 ha
  obtain ⟨hbanner, hcontent⟩ := Prod.mk.inj hpair
  exact ⟨c, h.reload_eq.trans (Outcome.toOption_eq_some_iff.1 hc), hbanner, hcontent⟩

theorem answer?_a : answer? "a" = some (some "a", []) := by decide +kernel

theorem answer?_b : answer? "b" = some (some "b", []) := by decide +kernel

theorem exists_render {c : Config} (hcontent : c.content = []) (o : Order) (t : Tree) :
    ∃ b, o.render c t = .ok b := by
  obtain ⟨g, hg⟩ := Config.generates_of_plain (c := c) (List.forall_mem_nil _) false
  have hclasses : Content.classes t (Config.baseDir t o.config) c.content = [] := by
    rw [hcontent]
    simp [Content.classes, Content.Search.classes, Content.Search.files, Content.distinct, Path.sorted]
  rw [Order.render, Config.generateFrom, hclasses, hg]
  exact ⟨_, rfl⟩

theorem head_css {c : Config} {banner : String} (hbanner : c.banner = some banner) (hne : banner.toList ≠ [])
    {b : Built} (hb : order.render c t = .ok b) : b.css.toList.head? = banner.toList.head? := by
  rw [Order.render] at hb
  cases hg : c.generateFrom t (Config.baseDir t order.config) false with
  | error f =>
    rw [hg] at hb
    cases hb
  | ok g =>
    rw [hg] at hb
    rw [← Except.ok.inj hb]
    have htext : c.bannerText = banner := by rw [Config.bannerText, hbanner]; rfl
    have hempty : banner.isEmpty = false := by
      cases he : banner.isEmpty with
      | false => rfl
      | true =>
        rw [String.isEmpty_iff.1 he] at hne
        exact absurd rfl hne
    show (c.withBanner "\n\n" g.css).toList.head? = _
    rw [Config.withBanner, htext, hempty]
    simp only [Bool.false_eq_true, if_false, String.toList_append]
    cases hl : banner.toList with
    | nil => exact absurd hl hne
    | cons ch cs => rfl

theorem Sets.exists_stylesheet {banner : String} {c : Config} (h : Sets t banner c) (hne : banner.toList ≠ []) :
    ∃ css, order.stylesheet t = .ok css ∧ css.toList.head? = banner.toList.head? := by
  obtain ⟨b, hb⟩ := exists_render h.content order t
  refine ⟨b.css, ?_, head_css h.banner hne hb⟩
  rw [Order.stylesheet, h.reload, Except.bind, hb]
  rfl

theorem Sets.exists_build {trees : List Tree} {p : Project} (hf : p.cache.Faithful trees) (ht : p.tree ∈ trees)
    (hs : ∀ path, Tree.Settled trees path) {banner : String} {c : Config} (h : Sets p.tree banner c)
    (hne : banner.toList ≠ []) (stamp : Int) (hedit : ∀ content, p.tree.edit (Tree.save order.output content stamp) =
      (.ok (), p.tree.write ["p", "x.css"] content stamp)) :
    ∃ b cache, (Project.build order stamp).run.run p =
      (.ok b, ⟨p.tree.write ["p", "x.css"] b.css.toUTF8 stamp, cache⟩) ∧
        b.css.toList.head? = banner.toList.head? := by
  obtain ⟨r, hr, hconfig⟩ := hf.exists_reload ht (fun _ _ => hs _) h.reload
  obtain ⟨b, hb⟩ := exists_render h.content order p.tree
  rw [← hconfig] at hb
  refine ⟨b, r.cache, Project.build_of_render hr hb (hedit _), head_css ?_ hne hb⟩
  rw [hconfig]
  exact h.banner

def first : Tree := Config.bannerFolder "a"

def built (content : ByteArray) : Tree := first.write ["p", "x.css"] content 2

def edited (content : ByteArray) : Tree :=
  (built content).write ["p", "q.json"] (Config.bannerDocument "b").toUTF8 3

def rebuilt (content content' : ByteArray) : Tree := (edited content).write ["p", "x.css"] content' 4

theorem before_first : first.Before 2 := by
  intro a content stamp h
  rw [(Config.Workshop.get?_folderWith h).2]
  omega

theorem before_built (c : ByteArray) : (built c).Before 3 :=
  before_first.write (by omega) (by simp) (by omega) c

theorem before_edited (c : ByteArray) : (edited c).Before 4 :=
  (before_built c).write (by omega) (by simp) (by omega) _

theorem proper_first : first.Proper := by
  intro k hk
  have hkeys : first.nodes.keys = [["p"], ["p", "q.json"]] := rfl
  rw [hkeys] at hk
  simp only [List.mem_cons, List.not_mem_nil, or_false] at hk
  rcases hk with rfl | rfl <;> simp

theorem proper_built (c : ByteArray) : (built c).Proper := proper_first.write (by simp) (by simp) c 2

theorem proper_edited (c : ByteArray) : (edited c).Proper := (proper_built c).write (by simp) (by simp) _ 3

theorem follows_built (c : ByteArray) : (built c).Follows first [] := by
  apply Tree.follows_write proper_first (by simp) (by simp) (by simp)
  simpa using before_first

theorem follows_edited {past : List Tree} (c : ByteArray) (h : ∀ v ∈ past, v.Before 3) :
    (edited c).Follows (built c) past :=
  Tree.follows_write (proper_built c) (by simp) (by simp) (by simp)
    (List.forall_mem_cons.2 ⟨before_built c, h⟩) _

theorem follows_rebuilt {past : List Tree} (c c' : ByteArray) (h : ∀ v ∈ past, v.Before 4) :
    (rebuilt c c').Follows (edited c) past :=
  Tree.follows_write (proper_edited c) (by simp) (by simp) (by simp)
    (List.forall_mem_cons.2 ⟨before_edited c, h⟩) _

theorem banner_first : Banner first "a" 1 := ⟨rfl, rfl⟩

theorem banner_built (c : ByteArray) : Banner (built c) "a" 1 := ⟨rfl, rfl⟩

theorem banner_edited (c : ByteArray) : Banner (edited c) "b" 3 := ⟨rfl, rfl⟩

theorem banner_rebuilt (c c' : ByteArray) : Banner (rebuilt c c') "b" 3 := ⟨rfl, rfl⟩

theorem exists_opened : ∃ css cache, css.toList.head? = some 'a' ∧
    Reached order [first] ⟨⟨built css.toUTF8, cache⟩, .new order.config, css, first, first, .opening⟩ := by
  obtain ⟨c, hc⟩ := banner_first.exists_sets answer?_a
  have hempty : Config.Cache.empty.Faithful [first] := Config.Cache.faithful_of_empty rfl
  obtain ⟨b, cache, hb, hhead⟩ := Sets.exists_build (p := ⟨first, .empty⟩) hempty (List.mem_singleton_self _)
    (Tree.History.single proper_first).settled hc (by decide) 2 fun _ => rfl
  exact ⟨b.css, cache, hhead, .opened proper_first hb (follows_built _)⟩

theorem missed_edit : ∃ past v w, Reached order past v ∧ v.stage = .waiting false ∧
    v.watch.poll v.project.tree = .ok ([], w) ∧ order.stylesheet v.project.tree ≠ .ok v.css := by
  obtain ⟨css, cache, hhead, hopened⟩ := exists_opened
  have hfollows : (edited css.toUTF8).Follows (built css.toUTF8) [first] :=
    follows_edited css.toUTF8 (by simpa using before_first.mono (by omega))
  obtain ⟨c, hc⟩ := (banner_edited css.toUTF8).exists_sets answer?_b
  obtain ⟨stamps, hstamps⟩ := Watch.exists_snapshot hc.reload
  have hedited : Reached order [built css.toUTF8, first]
      ⟨⟨edited css.toUTF8, cache⟩, .new order.config, css, first, first, .opening⟩ := hopened.step (.edit hfollows)
  have hstarted : Reached order [edited css.toUTF8, built css.toUTF8, first]
      ⟨⟨edited css.toUTF8, cache⟩, ⟨order.config, stamps⟩, css, first, edited css.toUTF8, .waiting false⟩ :=
    hedited.step (.start rfl (Watch.start_of_snapshot hstamps))
  refine ⟨_, _, ⟨order.config, stamps⟩, hstarted, rfl, ?_, ?_⟩
  · have hsame : Watch.changes stamps stamps = [] := Watch.changes_eq_nil fun _ => rfl
    rw [← hsame]
    exact Watch.poll_of_snapshot hstamps
  · obtain ⟨css', hcss', hhead'⟩ := hc.exists_stylesheet (by decide)
    intro h
    rw [hcss'] at h
    rw [Except.ok.inj h, hhead] at hhead'
    exact absurd hhead' (by decide)

theorem stylesheet_of_rest_noticed : ∃ past v w, Reached order past v ∧ v.stage = .waiting true ∧
    v.watch.poll v.project.tree = .ok ([], w) ∧ v.Unmissed order true ∧
      order.stylesheet v.project.tree = .ok v.css ∧ v.css.toList.head? = some 'b' := by
  obtain ⟨css, cache, hhead, hopened⟩ := exists_opened
  obtain ⟨ca, hca⟩ := (banner_built css.toUTF8).exists_sets answer?_a
  obtain ⟨cb, hcb⟩ := (banner_edited css.toUTF8).exists_sets answer?_b
  obtain ⟨before, hbefore⟩ := Watch.exists_snapshot hca.reload
  obtain ⟨after, hafter⟩ := Watch.exists_snapshot hcb.reload
  have hstarted : Reached order [built css.toUTF8, first]
      ⟨⟨built css.toUTF8, cache⟩, ⟨order.config, before⟩, css, first, built css.toUTF8, .waiting false⟩ :=
    hopened.step (.start rfl (Watch.start_of_snapshot hbefore))
  have hfollows : (edited css.toUTF8).Follows (built css.toUTF8) [built css.toUTF8, first] :=
    follows_edited css.toUTF8 (by simpa using ⟨before_built css.toUTF8, before_first.mono (by omega)⟩)
  have hedited : Reached order [built css.toUTF8, built css.toUTF8, first]
      ⟨⟨edited css.toUTF8, cache⟩, ⟨order.config, before⟩, css, first, built css.toUTF8, .waiting false⟩ :=
    hstarted.step (.edit hfollows)
  have hchanges : Watch.changes before after ≠ [] := by
    have hwatched : ∀ t c, t.home = ["p"] → Config.reload t order.config = .ok c →
        Watch.Watches t order.config ⟨true, ["p", "q.json"]⟩ := by
      intro t c hhome hc
      refine (Watch.watches_iff hc).2 (.inl ?_)
      rw [order, Option.map_some, Tree.resolved, hhome]
      rfl
    apply List.ne_nil_of_mem (a := ⟨true, ["p", "q.json"]⟩)
    rw [Watch.mem_changes, (Watch.get?_snapshot hbefore _).1 (hwatched _ ca rfl hca.reload),
      (Watch.get?_snapshot hafter _).1 (hwatched _ cb rfl hcb.reload), Tree.stamp?_eq, Tree.stamp?_eq,
      (banner_built css.toUTF8).file, (banner_edited css.toUTF8).file]
    decide
  have hnoticed : Reached order [edited css.toUTF8, built css.toUTF8, built css.toUTF8, first]
      ⟨⟨edited css.toUTF8, cache⟩, ⟨order.config, after⟩, css, first, edited css.toUTF8, .due⟩ :=
    hedited.step (.notice rfl hchanges (Watch.poll_of_snapshot hafter))
  obtain ⟨b, cache', hbuild, hhead'⟩ := hcb.exists_build hnoticed.inv.cache (List.mem_cons_self ..)
    hnoticed.inv.history.settled (by decide) 4 fun _ => rfl
  have hrebuilt : Reached order [edited css.toUTF8, edited css.toUTF8, built css.toUTF8, built css.toUTF8, first]
      ⟨⟨rebuilt css.toUTF8 b.css.toUTF8, cache'⟩, ⟨order.config, after⟩, b.css, edited css.toUTF8,
        edited css.toUTF8, .waiting true⟩ := by
    refine hnoticed.step (.rebuild rfl hbuild (follows_rebuilt _ _ ?_))
    simpa using ⟨before_edited css.toUTF8, (before_built css.toUTF8).mono (by omega), before_first.mono (by omega)⟩
  obtain ⟨c, hc⟩ := (banner_rebuilt css.toUTF8 b.css.toUTF8).exists_sets answer?_b
  obtain ⟨last, hlast⟩ := Watch.exists_snapshot hc.reload
  have hsame : ∀ p, after.get? p = last.get? p := by
    intro p
    have hwatched : Watch.Watches (edited css.toUTF8) order.config p ↔
        Watch.Watches (rebuilt css.toUTF8 b.css.toUTF8) order.config p := by
      rw [Watch.watches_of_no_content hcb.reload hcb.content, Watch.watches_of_no_content hc.reload hc.content]
      rfl
    by_cases hp : Watch.Watches (edited css.toUTF8) order.config p
    · rw [(Watch.get?_snapshot hafter p).1 hp, (Watch.get?_snapshot hlast p).1 (hwatched.1 hp)]
      obtain rfl : Path.mk true ["p", "q.json"] = p :=
        Option.some.inj ((Watch.watches_of_no_content hcb.reload hcb.content p).1 hp)
      rw [Tree.stamp?_eq, Tree.stamp?_eq, (banner_edited _).file, (banner_rebuilt _ _).file]
    · rw [(Watch.get?_snapshot hafter p).2 hp, (Watch.get?_snapshot hlast p).2 fun h => hp (hwatched.2 h)]
  have hrest : Watch.poll ⟨order.config, after⟩ (rebuilt css.toUTF8 b.css.toUTF8) = .ok ([], ⟨order.config, last⟩) := by
    rw [← Watch.changes_eq_nil hsame]
    exact Watch.poll_of_snapshot hlast
  have hunmissed : Unmissed order ⟨⟨rebuilt css.toUTF8 b.css.toUTF8, cache'⟩, ⟨order.config, after⟩, b.css,
      edited css.toUTF8, edited css.toUTF8, .waiting true⟩ true := fun p _ hfile => .inl hfile
  obtain ⟨hcss, _⟩ := stylesheet_of_rest hrebuilt rfl hrest hunmissed
  exact ⟨_, _, _, hrebuilt, rfl, hrest, hunmissed, hcss, hhead'⟩

end Vigil

end UtilityCss
