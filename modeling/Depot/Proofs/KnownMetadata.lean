import Depot.Proofs.Inquiries

/-!
What is known of artifacts. Whatever a session is asked, in whatever world, all metadata that it
keeps has come about in one of the ways in which metadata comes about.
-/

namespace Depot

open Http Normalization Repository Run

variable {c : Configuration} {s : Session}

namespace Metadata

/-- All metadata that is kept has come about in one of the ways in which it does. -/
def Arisen (cache : Cache Key (Option Metadata)) : Prop := ∀ p ∈ cache, AllArise p.2

theorem Arisen.put {cache : Cache Key (Option Metadata)} (h : Arisen cache) (key : Key)
    {found : Option Metadata} (hfound : AllArise found) : Arisen (cache.put key found) := by
  intro p hp
  rcases Cache.mem_put hp with hp | rfl
  · exact h p hp
  · exact hfound

end Metadata

namespace Question

variable {settings : Settings}

theorem resolve_arisen (q : Question) :
    Keeps (fun s => Metadata.Arisen s.metadata) (q.resolve settings) Metadata.AllArise := by
  intro s hs
  cases hvalue : s.metadata.get? q.key with
  | some found =>
      rw [resolve_of_some hvalue]
      exact ⟨hs, hs _ (Cache.mem_of_get? hvalue)⟩
  | none =>
      rw [resolve_of_none hvalue]
      obtain ⟨hbare, hfound⟩ := q.lookUp_keeps (Scope.reading.sparesReading_bare s.bare) s rfl
      dsimp only
      rw [Session.metadata_eq_of_bare_eq hbare]
      exact ⟨hs.put _ hfound, hfound⟩

theorem mapM_resolve_arisen (qs : List Question) :
    Keeps (fun s => Metadata.Arisen s.metadata) (qs.mapM (Question.resolve settings)) fun each =>
      ∀ found ∈ each, Metadata.AllArise found :=
  Keeps.mapM fun q _ => q.resolve_arisen

end Question

namespace Normalization

-- What a verdict says is of no interest here, and unfolding it means reading a URI.
attribute [local irreducible] verdict

theorem metadata_normalize (r : Repository) : (normalize c r s).2.metadata = s.metadata := by
  cases hvalue : s.normalized.get? (key r.canonical) with
  | some usable => rw [normalize_of_some hvalue]
  | none =>
      have hheld := Session.metadata_eq_of_bare_eq (s.bare_hold (verdict c s.lookup r.canonical))
      rw [normalize_of_none hvalue]
      exact hheld

theorem metadata_mapM_normalize (rs : List Repository) :
    (rs.mapM (normalize c) s).2.metadata = s.metadata := by
  induction rs generalizing s with
  | nil => rfl
  | cons r rs ih => rw [mapM_cons_apply, ih, metadata_normalize]

theorem metadata_normalizeAll (rs : List Repository) :
    (normalizeAll c rs s).2.metadata = s.metadata := by
  have hrun := Session.metadata_eq_of_bare_eq
    (batch_run_bare c s.lookup (rs.map canonical) (.ofCache s.normalized) s)
  exact hrun

end Normalization

theorem Operation.after_arisen (operation : Operation) (hs : Metadata.Arisen s.metadata) :
    Metadata.Arisen (operation.after c s).metadata := by
  cases hsequential : operation.isSequential with
  | true =>
      have hbare : (operation.after c s).bare = (operation.cached c s).bare :=
        after_stages (Scope.reading.sparesReading_bare _) hsequential rfl
      rw [Session.metadata_eq_of_bare_eq hbare]
      refine (Question.mapM_resolve_arisen (operation.asked c s) _ ?_).1
      dsimp only
      rwa [metadata_mapM_normalize]
  | false =>
      cases operation with
      | normalizeAll rs =>
          rw [after, metadata_normalizeAll]
          exact hs
      | _ => cases hsequential

theorem Inquiry.after_arisen (inquiry : Inquiry) (hs : Metadata.Arisen s.metadata) :
    Metadata.Arisen (inquiry.after c s).metadata :=
  after_keeps (fun s => Metadata.Arisen s.metadata) (fun q s hs => (q.resolve_arisen s hs).1)
    (fun operation _ hs => operation.after_arisen hs) inquiry hs

/-- Metadata that can be kept: after inquiries, in whatever world. -/
inductive Metadata.Reached (c : Configuration) : Cache Metadata.Key (Option Metadata) → Prop
  | empty : Reached c []
  | inquiry {s : Session} (inquiry : Inquiry) :
      Reached c s.metadata → Reached c (inquiry.after c s).metadata

theorem Metadata.Reached.arisen {cache : Cache Metadata.Key (Option Metadata)}
    (h : Reached c cache) : Arisen cache := by
  induction h with
  | empty => exact List.forall_mem_nil _
  | inquiry inquiry _ ih => exact inquiry.after_arisen ih

end Depot
