import UtilityCss.Proofs.Files.Order
import UtilityCss.Proofs.Watch.Looks

namespace UtilityCss

namespace Watch

theorem nodup_changes (before after : Table Path Int) : (changes before after).Nodup := by
  rw [changes, (Path.perm_sorted _).nodup_iff, List.nodup_append]
  refine ⟨after.distinct.filter _, before.distinct.filter _, ?_⟩
  rintro p hp _ hq rfl
  have hafter : after.contains p = true := (Table.contains_iff after p).2 (List.mem_filter.1 hp).1
  have hgone := (List.mem_filter.1 hq).2
  rw [hafter] at hgone
  cases hgone

theorem liftM_ok {m : Type → Type} [Monad m] [MonadLiftT (Except Fault) m] [LawfulMonadLiftT (Except Fault) m]
    {α : Type} (a : α) : (liftM (.ok a : Except Fault α) : m α) = pure a :=
  liftM_pure a

section Host

variable [Document.Host] {config : Option Path} {t u : Tree} {p : Path}

def Finds (config : Option Path) (c : Config) (t : Tree) (p : Path) : Prop :=
  ∃ pattern ∈ c.content, ∃ e ∈ Pattern.expandBraces pattern, p ∈ t.glob (Config.baseDir t config) e

instance (config : Option Path) (c : Config) (t : Tree) (p : Path) : Decidable (Finds config c t p) :=
  inferInstanceAs (Decidable (∃ pattern ∈ c.content, ∃ e ∈ Pattern.expandBraces pattern, _))

/-- The stamp that a look at a tree finds at a path: that of the configuration file, or of a file that the
configuration asks for as it reads in this tree. -/
def stampIn (config : Option Path) (t : Tree) (p : Path) : Option Int :=
  (Config.reload t config).toOption.bind fun c =>
    if config.map t.resolved = some p ∨ Finds config c t p then t.stamp? p else none

def Matched (config : Option Path) (t : Tree) (p : Path) : Prop :=
  t.isFile p = true ∧ ∃ c, Config.reload t config = .ok c ∧ Finds config c t p

/-- What a poll has to tell of a tree, after a look at another tree or after none. -/
structure Tells (config : Option Path) (seen : Option Tree) (now : Tree) (changed : List Path) : Prop where
  ascending : changed.Pairwise fun p q => p.parts < q.parts
  absolute : ∀ p ∈ changed, p.absolute = true
  mem_iff : ∀ p, p ∈ changed ↔ (seen.bind fun t => stampIn config t p) ≠ stampIn config now p
  calm : seen = some now → changed = []
  config : ∀ q ∈ config, ∀ t ∈ seen, t.home = now.home → t.stamp? (t.resolved q) ≠ now.stamp? (now.resolved q) →
    now.resolved q ∈ changed ∧ ∀ p, ¬ (Matched config t p ↔ Matched config now p) → p ∈ changed

inductive Event where
  | edit (t : Tree)
  | start
  | poll

def reports (w : Watch) (t : Tree) : List Event → Except Fault (List (List Path))
  | [] => .ok []
  | .edit u :: es => w.reports u es
  | .start :: es => (w.start t).bind fun w => w.reports t es
  | .poll :: es => (w.poll t).bind fun r => (r.2.reports t es).map (r.1 :: ·)

def polls (seen : Option Tree) (t : Tree) : List Event → List (Option Tree × Tree)
  | [] => []
  | .edit u :: es => polls seen u es
  | .start :: es => polls (some t) t es
  | .poll :: es => (seen, t) :: polls (some t) t es

def course (ts : List Tree) : List Event :=
  ts.flatMap fun t => [.edit t, .poll]

structure Found (config : Option Path) (seen : Option Tree) (stamps : Table Path Int) : Prop where
  get? : ∀ p, stamps.get? p = seen.bind fun t => stampIn config t p
  reload : ∀ t ∈ seen, ∃ c, Config.reload t config = .ok c

theorem get?_eq_stampIn {stamps : Table Path Int} (h : snapshot t config = .ok stamps) (p : Path) :
    stamps.get? p = stampIn config t p := by
  obtain ⟨c, hc⟩ := exists_reload_of_snapshot h
  apply Option.ext
  intro stamp
  rw [get?_snapshot_eq_some_iff h, watches_iff hc, Content.mem_files, stampIn, hc, Except.toOption, Option.bind_some,
    Option.ite_none_right_eq_some, Option.mem_def, ← Finds]
  refine and_congr_left fun hs => or_congr_right ?_
  rw [Tree.isFile_iff_stamp?, and_iff_left ⟨stamp, hs⟩]

theorem found_empty : Found config none .empty :=
  ⟨fun _ => rfl, nofun⟩

theorem found_of_snapshot {stamps : Table Path Int} (h : snapshot t config = .ok stamps) :
    Found config (some t) stamps := by
  refine ⟨get?_eq_stampIn h, ?_⟩
  rintro _ ⟨⟩
  exact exists_reload_of_snapshot h

theorem absolute_of_stampIn {stamp : Int} (h : stampIn config t p = some stamp) : p.absolute = true := by
  obtain ⟨c, hc, hstamp⟩ := Option.bind_eq_some_iff.1 h
  rcases (Option.ite_none_right_eq_some.1 hstamp).1 with hconfig | ⟨pattern, _, e, _, hglob⟩
  · obtain ⟨q, _, rfl⟩ := Option.map_eq_some_iff.1 hconfig
    rfl
  · refine Tree.absolute_of_mem_glob ?_ hglob
    cases config <;> rfl

theorem stampIn_of_matched {q : Path} (hq : p ≠ t.resolved q) :
    (∃ stamp, stampIn (some q) t p = some stamp) ↔ Matched (some q) t p := by
  have hne : (some q).map t.resolved ≠ some p := fun he => hq (Option.some.inj he).symm
  simp only [stampIn, Option.bind_eq_some_iff, Option.ite_none_right_eq_some, hne, false_or,
    Outcome.toOption_eq_some_iff, Matched, Tree.isFile_iff_stamp?]
  constructor
  · rintro ⟨stamp, c, hc, hfinds, hs⟩
    exact ⟨⟨stamp, hs⟩, c, hc, hfinds⟩
  · rintro ⟨⟨stamp, hs⟩, c, hc, hfinds⟩
    exact ⟨stamp, c, hc, hfinds, hs⟩

theorem stampIn_config {q : Path} {c : Config} (hc : Config.reload t (some q) = .ok c) :
    stampIn (some q) t (t.resolved q) = t.stamp? (t.resolved q) := by
  rw [stampIn, hc, Except.toOption, Option.bind_some, if_pos (.inl rfl)]

theorem tells_changes {seen : Option Tree} {now : Tree} {before after : Table Path Int}
    (hbefore : Found config seen before) (hafter : Found config (some now) after) :
    Tells config seen now (changes before after) := by
  have hmem : ∀ p, p ∈ changes before after ↔ (seen.bind fun t => stampIn config t p) ≠ stampIn config now p := by
    intro p
    rw [mem_changes, hbefore.get?, hafter.get?, Option.bind_some]
  have habsolute : ∀ p ∈ changes before after, p.absolute = true := by
    intro p hp
    rw [hmem] at hp
    cases hs : stampIn config now p with
    | some stamp => exact absolute_of_stampIn hs
    | none =>
      obtain ⟨stamp, hseen⟩ := Option.ne_none_iff_exists'.1 (hs ▸ hp)
      obtain ⟨t, _, ht⟩ := Option.bind_eq_some_iff.1 hseen
      exact absolute_of_stampIn ht
  refine ⟨?_, habsolute, hmem, ?_, ?_⟩
  · exact Path.ascending_sorted (fun p hp => habsolute p (Path.mem_sorted.2 hp))
      ((Path.perm_sorted _).nodup_iff.1 (nodup_changes before after))
  · rintro rfl
    exact List.eq_nil_iff_forall_not_mem.2 fun p hp => (hmem p).1 hp rfl
  · rintro q rfl t rfl hhome hstamp
    obtain ⟨c, hc⟩ := hbefore.reload t rfl
    obtain ⟨c', hc'⟩ := hafter.reload now rfl
    have hconfig : now.resolved q ∈ changes before after := by
      rw [hmem, Option.bind_some, stampIn_config hc', ← resolved_eq hhome, stampIn_config hc, resolved_eq hhome]
      rwa [resolved_eq hhome] at hstamp
    refine ⟨hconfig, fun p hp => ?_⟩
    by_cases hpq : p = now.resolved q
    · exact hpq ▸ hconfig
    · -- away from the configuration file a stamp is found just where a pattern matches
      rw [hmem, Option.bind_some]
      intro hsame
      refine hp ?_
      rw [← stampIn_of_matched (resolved_eq hhome ▸ hpq), ← stampIn_of_matched hpq, hsame]

theorem reports_start {w : Watch} {es : List Event} {changes : List (List Path)}
    (h : w.reports t (.start :: es) = .ok changes) : ∃ w', w.start t = .ok w' ∧ w'.reports t es = .ok changes := by
  rw [reports] at h
  cases hw : w.start t with
  | error f =>
    rw [hw] at h
    cases h
  | ok w' =>
    rw [hw] at h
    exact ⟨w', rfl, h⟩

theorem reports_poll {w : Watch} {es : List Event} {changes : List (List Path)}
    (h : w.reports t (.poll :: es) = .ok changes) :
    ∃ changed w' more, w.poll t = .ok (changed, w') ∧ w'.reports t es = .ok more ∧ changes = changed :: more := by
  rw [reports] at h
  cases hw : w.poll t with
  | error f =>
    rw [hw] at h
    cases h
  | ok r =>
    rw [hw, Except.bind] at h
    cases hr : r.2.reports t es with
    | error f =>
      rw [hr] at h
      cases h
    | ok more =>
      rw [hr] at h
      exact ⟨r.1, r.2, more, rfl, hr, (Except.ok.inj h).symm⟩

theorem forall₂_reports {w : Watch} {seen : Option Tree} {es : List Event} {changes : List (List Path)}
    (hw : Found w.config seen w.stamps) (h : w.reports t es = .ok changes) :
    List.Forall₂ (fun look changed => Tells w.config look.1 look.2 changed) (polls seen t es) changes := by
  induction es generalizing w seen t changes with
  | nil =>
    cases h
    exact .nil
  | cons e es ih =>
    cases e with
    | edit u => exact ih hw h
    | start =>
      obtain ⟨w', hstart, hrest⟩ := reports_start h
      obtain ⟨hsnapshot, hconfig⟩ := snapshot_of_start hstart
      rw [polls, ← hconfig]
      apply ih _ hrest
      rw [hconfig]
      exact found_of_snapshot hsnapshot
    | poll =>
      obtain ⟨changed, w', more, hpoll, hrest, rfl⟩ := reports_poll h
      obtain ⟨hsnapshot, hconfig, rfl⟩ := snapshot_of_poll hpoll
      have hnow := found_of_snapshot hsnapshot
      refine .cons (tells_changes hw hnow) ?_
      rw [← hconfig]
      apply ih _ hrest
      rw [hconfig]
      exact hnow

section Loop

variable {m : Type → Type} [Monad m] [LawfulMonad m] [MonadLiftT (Except Fault) m]
  [LawfulMonadLiftT (Except Fault) m]

theorem discard_rounds {w : Watch} {ts : List Tree} {changes : List (List Path)} (onChange : List Path → m Unit)
    (h : w.reports t (course ts) = .ok changes) :
    discard (w.rounds onChange ts) = (changes.filter (· ≠ [])).forM onChange := by
  induction ts generalizing w t changes with
  | nil =>
    cases h
    simp [rounds, discard, map_const]
  | cons u ts ih =>
    obtain ⟨changed, w', more, hpoll, hrest, rfl⟩ := reports_poll h
    rw [rounds, round, hpoll, liftM_ok, pure_bind]
    cases changed with
    | nil => simpa using ih hrest
    | cons p ps => simpa [discard, map_const] using congrArg (onChange (p :: ps) >>= fun _ => ·) (ih hrest)

theorem discard_run {w : Watch} {ts : List Tree} {changes : List (List Path)} (onChange : List Path → m Unit)
    (h : w.reports t (.start :: course ts) = .ok changes) :
    discard (w.run onChange t ts) = (changes.filter (· ≠ [])).forM onChange := by
  obtain ⟨w', hstart, hrest⟩ := reports_start h
  rw [run, hstart, liftM_ok, pure_bind, discard_rounds onChange hrest]

end Loop

/-- Every poll tells just the paths whose stamp differs from the one that the look before has found, and a loop
hands on what its polls tell, as far as they tell anything. -/
theorem reports_exactly (config : Option Path) (t : Tree) :
    (∀ es changes, (new config).reports t es = .ok changes →
      List.Forall₂ (fun look changed => Tells config look.1 look.2 changed) (polls none t es) changes) ∧
    ∀ {m : Type → Type} [Monad m] [LawfulMonad m] [MonadLiftT (Except Fault) m] [LawfulMonadLiftT (Except Fault) m]
      (onChange : List Path → m Unit) (ts : List Tree) (changes : List (List Path)),
      (new config).reports t (.start :: course ts) = .ok changes →
        discard ((new config).run onChange t ts) = (changes.filter (· ≠ [])).forM onChange :=
  ⟨fun _ _ h => forall₂_reports found_empty h, fun onChange _ _ h => discard_run onChange h⟩

end Host

namespace Pages

variable {t : Tree}

def file : Option Path :=
  some ⟨false, ["q.json"]⟩

def document (pattern : String) : ByteArray :=
  ("\x7b\"content\": [\"" ++ pattern ++ "\"]\x7d").toUTF8

def first : Tree :=
  ⟨((((Table.empty.insert ["p"] .folder).insert ["p", "q.json"] (.file (document "*.b") 1)).insert ["p", "x.a"]
    (.file .empty 1)).insert ["p", "x.b"] (.file .empty 1)), ["p"]⟩

def second : Tree :=
  first.write ["p", "q.json"] (document "*.a") 2

def at_ (name : String) : Path :=
  ⟨true, ["p", name]⟩

theorem snapshot_eq (pattern : String) {name : String} {stamp : Int}
    (hcontent : (Config.reload t file).toOption.map Config.content = some [pattern])
    (hconfig : t.resolved ⟨false, ["q.json"]⟩ = at_ "q.json")
    (hmatching : Content.distinct (Content.matching t (at_ "q.json").parent pattern) = [at_ name])
    (hstamp : t.stamp? (at_ "q.json") = some stamp) (hpage : t.stamp? (at_ name) = some 1) :
    snapshot t file = .ok (.ofList [(at_ "q.json", stamp), (at_ name, 1)]) := by
  obtain ⟨c, hc, hcontent⟩ := Option.map_eq_some_iff.1 hcontent
  have hfiles : Content.files t (Config.baseDir t file) c.content = [at_ name] := by
    rw [file, Config.baseDir, hconfig, hcontent, Content.files, Content.Search.files, List.flatMap_singleton]
    change Path.sorted (Content.distinct (Content.matching t _ pattern)) = _
    rw [hmatching]
    exact Path.sorted_of_pairwise (List.pairwise_singleton ..)
  rw [snapshot, files, Outcome.toOption_eq_some_iff.1 hc, Except.map, hfiles]
  simp [file, hconfig, hstamp, hpage, Except.map]

theorem snapshot_first : snapshot first file = .ok (.ofList [(at_ "q.json", 1), (at_ "x.b", 1)]) :=
  snapshot_eq "*.b" (by decide +kernel) rfl (by decide +kernel) rfl rfl

theorem snapshot_second : snapshot second file = .ok (.ofList [(at_ "q.json", 2), (at_ "x.a", 1)]) :=
  snapshot_eq "*.a" (by decide +kernel) rfl (by decide +kernel) rfl rfl

theorem changes_second : changes (.ofList [(at_ "q.json", 1), (at_ "x.b", 1)])
    (.ofList [(at_ "q.json", 2), (at_ "x.a", 1)]) = [at_ "q.json", at_ "x.a", at_ "x.b"] :=
  Path.sorted_of_pairwise (by decide)

theorem reports_loop : (new file).reports first (.start :: course [second, second]) =
    .ok [[at_ "q.json", at_ "x.a", at_ "x.b"], []] := by
  have hcalm :
      changes (.ofList [(at_ "q.json", 2), (at_ "x.a", 1)]) (.ofList [(at_ "q.json", 2), (at_ "x.a", 1)]) = [] :=
    changes_eq_nil fun _ => rfl
  have hstart : (new file).start first = .ok ⟨file, .ofList [(at_ "q.json", 1), (at_ "x.b", 1)]⟩ :=
    start_of_snapshot snapshot_first
  rw [reports, hstart, Except.bind, course, List.flatMap_cons, List.flatMap_singleton, List.cons_append,
    List.singleton_append, reports, reports, poll_of_snapshot snapshot_second, changes_second, Except.bind, reports,
    reports, poll_of_snapshot snapshot_second, hcalm]
  rfl

end Pages

open Pages in
theorem reports_exactly_entering_leaving :
    Tells file (some first) second [at_ "q.json", at_ "x.a", at_ "x.b"] ∧ Tells file (some second) second [] ∧
      discard ((new file).run (m := StateT (List (List Path)) (Except Fault))
        (fun changed => modify (· ++ [changed])) first [second, second]) =
          modify (· ++ [[at_ "q.json", at_ "x.a", at_ "x.b"]]) := by
  obtain ⟨htells, hloop⟩ := reports_exactly file first
  have hlooks := htells _ _ reports_loop
  simp only [course, polls, List.flatMap_cons, List.flatMap_nil, List.cons_append, List.nil_append,
    List.forall₂_cons] at hlooks
  refine ⟨hlooks.1, hlooks.2.1, ?_⟩
  rw [hloop _ _ _ reports_loop]
  rfl

end Watch

end UtilityCss
