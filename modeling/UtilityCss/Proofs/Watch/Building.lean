import UtilityCss.Build
import UtilityCss.Proofs.Config.Caching

namespace UtilityCss

namespace Project

variable {α β : Type} {p q : Project}

theorem run_bind_ok {x : Work α} (f : α → Work β) {a : α} (h : x.run.run p = (.ok a, q)) :
    (x >>= f).run.run p = (f a).run.run q := by
  show (x.run.run p >>= fun r => ExceptT.bindCont f r.1 r.2 : Id _) = _
  rw [h]
  rfl

theorem run_bind_error {x : Work α} (f : α → Work β) {e : BuildFault} (h : x.run.run p = (.error e, q)) :
    (x >>= f).run.run p = (.error e, q) := by
  show (x.run.run p >>= fun r => ExceptT.bindCont f r.1 r.2 : Id _) = _
  rw [h]
  rfl

theorem run_get : (get : Work Project).run.run p = (.ok p, p) := rfl

theorem run_set : (set q : Work PUnit).run.run p = (.ok ⟨⟩, q) := rfl

theorem run_liftM (x : Except BuildFault α) : (liftM x : Work α).run.run p = (x, p) := by
  cases x <;> rfl

theorem run_writeOutput (o : Order) (b : Built) (stamp : Int) (p : Project) :
    (writeOutput o b stamp).run.run p =
      ((p.tree.edit (Tree.save o.output b.css.toUTF8 stamp)).1.mapError BuildFault.file,
        ⟨(p.tree.edit (Tree.save o.output b.css.toUTF8 stamp)).2, p.cache⟩) := by
  rw [writeOutput, run_bind_ok _ run_get]
  dsimp only
  rw [run_bind_ok _ run_set, run_liftM]

end Project

variable [Document.Host]

def Order.stylesheet (o : Order) (t : Tree) : Except Fault String :=
  (Config.reload t o.config).bind fun c => (o.render c t).map Built.css

namespace Project

variable {p q : Project}

theorem run_reload_ok {path : Option Path} {r : Config.Cache.Reload} (h : p.cache.reload p.tree path = .ok r) :
    (reload path).run.run p = (.ok r.config, { p with cache := r.cache }) := by
  rw [reload, run_bind_ok _ run_get, h]
  rfl

theorem run_reload_error {path : Option Path} {f : Fault} (h : p.cache.reload p.tree path = .error f) :
    (reload path).run.run p = (.error (.fault f), p) := by
  rw [reload, run_bind_ok _ run_get, h]
  rfl

theorem build_eq_ok {o : Order} {stamp : Int} {b : Built} (h : (build o stamp).run.run p = (.ok b, q)) :
    ∃ r, p.cache.reload p.tree o.config = .ok r ∧ o.render r.config p.tree = .ok b ∧ q.cache = r.cache := by
  cases hr : p.cache.reload p.tree o.config with
  | error f =>
    rw [build, run_bind_error _ (run_reload_error hr)] at h
    cases h
  | ok r =>
    rw [build, run_bind_ok _ (run_reload_ok hr), run_bind_ok _ run_get] at h
    refine ⟨r, rfl, ?_⟩
    cases hb : o.render r.config p.tree with
    | error f =>
      rw [hb, Except.mapError, run_bind_error _ (run_liftM _)] at h
      cases h
    | ok b' =>
      rw [hb, Except.mapError, run_bind_ok _ (run_liftM _)] at h
      rcases hw : (writeOutput o b' stamp).run.run { p with cache := r.cache } with ⟨_ | _, p'⟩
      · rw [run_bind_error _ hw] at h
        cases h
      · rw [run_bind_ok _ hw] at h
        rw [run_writeOutput] at hw
        cases h
        obtain ⟨_, rfl⟩ := Prod.mk.inj hw
        exact ⟨rfl, rfl⟩

theorem build_of_render {o : Order} {stamp : Int} {r : Config.Cache.Reload} {b : Built} {t : Tree}
    (hr : p.cache.reload p.tree o.config = .ok r) (hb : o.render r.config p.tree = .ok b)
    (ht : p.tree.edit (Tree.save o.output b.css.toUTF8 stamp) = (.ok (), t)) :
    (build o stamp).run.run p = (.ok b, ⟨t, r.cache⟩) := by
  have hw : (writeOutput o b stamp).run.run { p with cache := r.cache } = (.ok (), ⟨t, r.cache⟩) := by
    rw [run_writeOutput, ht]
    rfl
  rw [build, run_bind_ok _ (run_reload_ok hr), run_bind_ok _ run_get, hb, Except.mapError,
    run_bind_ok _ (run_liftM _), run_bind_ok _ hw]
  rfl

variable {trees : List Tree}

theorem stylesheet_of_build {o : Order} {stamp : Int} {b : Built}
    (h : (build o stamp).run.run p = (.ok b, q)) (hf : p.cache.Faithful trees) (ht : p.tree ∈ trees)
    (hs : ∀ path, Tree.Settled trees path) : o.stylesheet p.tree = .ok b.css ∧ q.cache.Faithful trees := by
  obtain ⟨r, hr, hb, hq⟩ := build_eq_ok h
  have hc : Config.reload p.tree o.config = .ok r.config := hf.reload_eq ht (fun path _ => hs _) hr
  refine ⟨?_, hq ▸ hf.reload ht hr⟩
  rw [Order.stylesheet, hc]
  simp only [Except.bind, hb, Except.map]

end Project

end UtilityCss
