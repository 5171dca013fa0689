import Depot.Normalization
import Depot.Proofs.ComputeOnce

/-!
Normalization of many repositories at the same time. A verdict waits for a bounded number of
attempts and pauses, so that everybody is answered, and with the verdict that is kept.
-/

namespace Depot.Normalization

open Http

theorem verdict_waitsAtMost (c : Configuration) (lookup : String → Option String)
    (r : Repository) : (verdict c lookup r).WaitsAtMost (waits c) := by
  unfold verdict
  split
  · trivial
  · split
    · trivial
    · split
      · split
        · trivial
        · split
          · trivial
          · refine (Conversation.negotiate_waitsAtMost ..).bind (n := 0) fun outcome => ?_
            trivial
      · trivial

/-- The calls that are made for repositories in canonical form. -/
def batch (c : Configuration) (lookup : String → Option String) (rs : List Repository) :
    Cache.Batch Key Bool where
  calls := rs.map fun r => { key := key r, computation := verdict c lookup r }
  waits := waits c
  bounded := by
    intro call hcall
    obtain ⟨r, -, rfl⟩ := List.mem_map.1 hcall
    exact verdict_waitsAtMost c lookup r

/-- Everybody in a batch of normalizations is answered. -/
theorem batch_caller (c : Configuration) (lookup : String → Option String) (rs : List Repository)
    {cells : Cache.Cells Key Bool} (hcells : (cells.values.map Prod.fst).Nodup) (s : Session)
    {caller : Cache.Caller Key Bool}
    (hcaller : caller ∈ ((batch c lookup rs).run cells s).1.callers) :
    ∃ usable, caller.value? = some usable ∧
      ((batch c lookup rs).run cells s).1.cache.get? caller.call.key = some usable := by
  rcases (batch c lookup rs).run_caller s hcells hcaller with
    ⟨usable, hanswered, hkept⟩ | ⟨-, ms, hms, -⟩
  · exact ⟨usable, by rw [Cache.Caller.value?, hanswered], hkept⟩
  · have hcall : caller.call ∈ (batch c lookup rs).calls := by
      rw [← (batch c lookup rs).run_calls s hcells]
      exact List.mem_map_of_mem hcaller
    obtain ⟨r, -, hr⟩ := List.mem_map.1 hcall
    rw [← hr] at hms
    cases hms

/-- Each repository is answered, and as the verdict on it says that is kept from then on. -/
theorem normalizeAll_answers (c : Configuration) (rs : List Repository) (s : Session)
    (hs : (s.normalized.map Prod.fst).Nodup) :
    ∃ usable : Key → Bool,
      (normalizeAll c rs s).1 =
        rs.map (fun r => answer r.canonical (usable (key r.canonical))) ∧
      ∀ r ∈ rs, (normalizeAll c rs s).2.normalized.get? (key r.canonical) =
        some (usable (key r.canonical)) := by
  let b := batch c s.lookup (rs.map Repository.canonical)
  let t := (b.run (.ofCache s.normalized) s).1
  rw [← Cache.Cells.values_ofCache s.normalized] at hs
  have hcalls : t.callers.map Cache.Caller.call = b.calls := b.run_calls s hs
  have hlength : t.callers.length = rs.length := by
    simpa [b, batch] using congrArg List.length hcalls
  have hcaller : ∀ (i : Nat) (hi : i < rs.length), ∃ usable,
      t.callers[i].value? = some usable ∧ t.cache.get? (key rs[i].canonical) = some usable := by
    intro i hi
    have hcall : t.callers[i].call.key = key rs[i].canonical := by
      have hsame := List.getElem_of_eq hcalls (i := i) (by simpa [hlength] using hi)
      simpa [b, batch] using congrArg Cache.Call.key hsame
    rw [← hcall]
    exact batch_caller c s.lookup _ hs s (List.getElem_mem _)
  refine ⟨fun key => (t.cache.get? key).getD false, ?_, fun r hr => ?_⟩
  · change ((rs.map Repository.canonical).zip t.callers).map _ = _
    refine List.ext_getElem (by simp [hlength]) fun i _ hi => ?_
    obtain ⟨usable, hanswered, hkept⟩ := hcaller i (by simpa using hi)
    simp only [List.getElem_map, List.getElem_zip, hanswered, hkept, Option.bind_some,
      Option.getD_some]
  · obtain ⟨i, hi, rfl⟩ := List.getElem_of_mem hr
    obtain ⟨usable, -, hkept⟩ := hcaller i hi
    change t.cache.get? _ = some ((t.cache.get? _).getD false)
    rw [hkept, Option.getD_some]

end Depot.Normalization
