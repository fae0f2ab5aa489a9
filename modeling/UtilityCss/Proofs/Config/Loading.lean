import Mathlib.Tactic.Common
import UtilityCss.Config.Cache
import UtilityCss.Document.Readers
import UtilityCss.Proofs.Config.Exhaustion
import UtilityCss.Proofs.Files.Stamps

/-!
What comes of a configuration file. A build takes the configuration that its file gives, or the usual one; it
is stopped by nothing but a text with a value that cannot be held.
-/

namespace UtilityCss

namespace Tree

end Tree

namespace Config

open Document (Host)

namespace Cache

def answer? (c : Cache) (t : Tree) : Option Path → Option Cached
  | none => none
  | some p => (t.stamp? (t.resolved p)).bind (c.fresh? (p.resolve t.home))

theorem answer?_eq_some_iff {c : Cache} {t : Tree} {p : Path} {e : Cached} :
    c.answer? t (some p) = some e ↔
      c.entries.get? (p.resolve t.home) = some e ∧ t.stamp? (t.resolved p) = some e.stamp := by
  simp only [answer?, fresh?, Option.bind_eq_some_iff, Option.filter_eq_some_iff, decide_eq_true_eq]
  constructor
  · rintro ⟨stamp, hs, he, rfl⟩
    exact ⟨he, hs⟩
  · rintro ⟨he, hs⟩
    exact ⟨e.stamp, hs, he, rfl⟩

end Cache

section Host

variable [Host]

theorem load_eq_file? (t : Tree) (p : Path) : load t p =
    match t.file? p with
    | some (.file content _) =>
      match Tree.textOf? content, Document.Format.ofSuffix? p.suffix with
      | none, _ => .error (.refused .unreadable)
      | some _, none => .error (.refused (.unsupported p.suffix))
      | some text, some format => ofText format text
    | _ => .error (.refused .missing) := by
  rw [load, Tree.file?]
  cases t.node? p with
  | none => rfl
  | some n => cases n <;> rfl

theorem load_congr {t u : Tree} {p : Path} (h : t.file? p = u.file? p) : load t p = load u p := by
  rw [load_eq_file?, load_eq_file?, h]

def fallback (t : Tree) : Option Path → Config
  | none => standard
  | some p => (load t (t.resolved p)).toOption.getD standard

namespace Cache

variable {c : Cache} {t : Tree}

theorem load_of_no_stamp {p : Path} (h : t.stamp? p = none) : load t p = .error (.refused .missing) := by
  apply load_missing
  rw [Tree.isFile]
  rw [Tree.stamp?] at h
  cases hn : t.node? p with
  | none => rfl
  | some n =>
    rw [hn] at h
    cases n with
    | folder => rfl
    | file content stamp => cases h

theorem reload_of_no_answer {path : Option Path} (h : c.answer? t path = none) :
    (c.reload t path).map Reload.config = Config.reload t path := by
  cases path with
  | none => rfl
  | some p =>
    rw [answer?, Tree.resolved] at h
    rw [Cache.reload, Config.reload, Tree.resolved]
    cases hs : t.stamp? ⟨true, p.resolve t.home⟩ with
    | none =>
      rw [load_of_no_stamp hs]
      rfl
    | some stamp =>
      rw [hs, Option.bind_some] at h
      simp only [h]
      rw [read]
      cases load t ⟨true, p.resolve t.home⟩ with
      | ok config => rfl
      | error e => cases e <;> rfl

theorem reload_of_answer {path : Option Path} {e : Cached} (h : c.answer? t path = some e) :
    c.reload t path = .ok ⟨e.config, some e.reading, c⟩ := by
  cases path with
  | none => cases h
  | some p =>
    obtain ⟨stamp, hs, he⟩ := Option.bind_eq_some_iff.1 h
    rw [Tree.resolved] at hs
    rw [Cache.reload]
    simp only [hs, he]

end Cache

end Host

def folderWith (name text : String) : Tree :=
  ⟨(Table.empty.insert ["p"] .folder).insert ["p", name] (.file text.toUTF8 1), ["p"]⟩

def bannerDocument (banner : String) : String :=
  "\x7b\"banner\": \"" ++ banner ++ "\"\x7d"

def bannerFolder (banner : String) : Tree :=
  folderWith "q.json" (bannerDocument banner)

end Config

end UtilityCss
