import Mathlib.Data.List.Nodup
import UtilityCss.Generation
import UtilityCss.Proofs.Table

namespace UtilityCss

namespace Entry

def listing : { es : List (String × Entry) // standard = .ofList es } :=
  ⟨_, rfl⟩

theorem nodup_listing : (listing.1.map Prod.fst).Nodup := by
  decide +kernel

def listed : Table String Entry :=
  ⟨listing.1, nodup_listing⟩

theorem standard_eq_listed : standard = listed := by
  rw [listing.2, Table.ofList_eq nodup_listing]
  rfl

end Entry

namespace Registry

theorem registerAll_eq_ok (entries : List (String × Family)) :
    ∀ r : Registry, (r.keys ++ entries.map Prod.fst).Nodup →
      registerAll r entries = .ok (entries.foldl (fun t e => t.insert e.1 e.2) r) := by
  induction entries with
  | nil =>
    intro r _
    rfl
  | cons e entries ih =>
    intro r h
    rw [List.map_cons] at h
    have hfresh : e.1 ∉ r.keys := by
      intro hm
      exact (List.nodup_append.1 h).2.2 e.1 hm e.1 (List.mem_cons_self ..) rfl
    have hc : ¬ Table.contains r e.1 = true := fun hc => hfresh ((Table.contains_iff r e.1).1 hc)
    have hr : register r e.1 e.2 = .ok (r.insert e.1 e.2) := by
      rw [register, if_neg hc]
    have hk : (r.insert e.1 e.2).keys = r.keys ++ [e.1] := by
      rw [Table.keys_insert, if_neg hfresh]
    have hi := ih (r.insert e.1 e.2) (by rw [hk, List.append_assoc]; exact h)
    rw [registerAll, List.foldlM_cons, hr, List.foldl_cons]
    exact hi

theorem build_eq_ok {utilities : Table String Entry}
    (h : ((families ++ groupFamilies utilities).map Prod.fst).Nodup) :
    build utilities = .ok (.ofList (families ++ groupFamilies utilities)) :=
  registerAll_eq_ok _ .empty h

theorem nodup_listing : ((families ++ groupFamilies Entry.listed).map Prod.fst).Nodup := by
  decide +kernel

def listed : Registry :=
  ⟨families ++ groupFamilies Entry.listed, nodup_listing⟩

theorem standard_eq_listed : standard = listed := by
  rw [standard, Entry.standard_eq_listed, Table.ofList_eq nodup_listing]
  rfl

theorem build_standard : build Entry.standard = .ok standard := by
  rw [standard, Entry.standard_eq_listed]
  exact build_eq_ok nodup_listing

end Registry

def Resolver.listed (theme : Theme) (presets : Table String String) : Resolver :=
  ⟨.ofTheme theme, presets, Entry.listed, Registry.listed, Vocabulary.breakpoints⟩

theorem Resolver.standard_eq_listed (theme : Theme) (presets : Table String String) :
    standard theme presets = listed theme presets := by
  rw [standard, Entry.standard_eq_listed, Registry.standard_eq_listed]
  rfl

theorem Config.resolver_eq_listed (c : Config) : c.resolver = .listed c.mergedTheme c.presets :=
  Resolver.standard_eq_listed _ _

theorem Resolver.build_standard (theme : Theme) (presets breakpoints : Table String String) :
    build theme presets Entry.standard breakpoints =
      .ok ⟨.ofTheme theme, presets, Entry.standard, Registry.standard, breakpoints⟩ := by
  rw [build, Registry.build_standard]
  rfl

end UtilityCss
