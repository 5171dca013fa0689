import Depot.Proofs.SharedVerdicts
import Depot.Proofs.TablesAlike
import Depot.Proofs.Together
import Mathlib.Data.List.Nodup

/-!
Normalization of many repositories in a steady world. Whether they are normalized together or one
after the other, they get the same answers, and the same verdicts are kept; each key has the verdict
that its first repository has when it is alone.
-/

namespace Depot

open Http Normalization Repository Run Relation

variable {w : World} {c : Configuration} {s : Session}

namespace Normalization

/-- Each repository is answered as the verdict says that is kept for its key. -/
def IsAnswered (cache : Cache Key Bool) (rs : List Repository) (found : List (Option Repository)) :
    Prop :=
  List.Forall₂ (fun r r' => ∃ usable, cache.get? (key r.canonical) = some usable ∧
    r' = answer r.canonical usable) rs found

theorem IsAnswered.unique {cache cache' : Cache Key Bool} {rs : List Repository}
    {found found' : List (Option Repository)} (h : IsAnswered cache rs found)
    (h' : IsAnswered cache' rs found') (hcache : ∀ key, cache'.get? key = cache.get? key) :
    found' = found := by
  induction h generalizing found' with
  | nil =>
      cases h'
      rfl
  | cons hr _ ih =>
      obtain _ | ⟨hr', hrs'⟩ := h'
      obtain ⟨usable, hvalue, rfl⟩ := hr
      obtain ⟨usable', hvalue', rfl⟩ := hr'
      rw [hcache, hvalue, Option.some.injEq] at hvalue'
      rw [ih hrs', hvalue']

theorem normalize_isAnswered (c : Configuration) (r : Repository) (s : Session) :
    ∃ usable, (normalize c r s).2.normalized.get? (key r.canonical) = some usable ∧
      (normalize c r s).1 = answer r.canonical usable := by
  cases hvalue : s.normalized.get? (key r.canonical) with
  | some usable =>
      rw [normalize_of_some hvalue]
      exact ⟨usable, hvalue, rfl⟩
  | none =>
      have hheld := Session.normalized_eq_of_bare_eq (s.bare_hold (verdict c s.lookup r.canonical))
      rw [normalize_of_none hvalue]
      dsimp only
      rw [hheld]
      exact ⟨_, Cache.get?_put_self hvalue _, rfl⟩

theorem mapM_normalize_isAnswered (hs : (s.normalized.map Prod.fst).Nodup) (rs : List Repository) :
    IsAnswered (rs.mapM (normalize c) s).2.normalized rs (rs.mapM (normalize c) s).1 := by
  induction rs generalizing s with
  | nil => exact .nil
  | cons r rs ih =>
      have hfirst := (normalize_grown (c := c) r s ⟨hs, List.prefix_rfl⟩).1.distinct
      have hrest := mapM_normalize_grown (c := c) rs ⟨hfirst, List.prefix_rfl⟩
      obtain ⟨usable, hvalue, hanswer⟩ := normalize_isAnswered c r s
      rw [mapM_cons_apply]
      exact .cons ⟨usable, hrest.get? hvalue, hanswer⟩ (ih hfirst)

theorem normalizeAll_isAnswered (hs : (s.normalized.map Prod.fst).Nodup) (rs : List Repository) :
    IsAnswered (normalizeAll c rs s).2.normalized rs (normalizeAll c rs s).1 := by
  obtain ⟨usable, hanswers, hkept⟩ := normalizeAll_answers c rs s hs
  rw [hanswers, IsAnswered, List.forall₂_map_right_iff, List.forall₂_same]
  exact fun r hr => ⟨usable (key r.canonical), hkept r hr, rfl⟩

theorem batch_run_bare (c : Configuration) (lookup : String → Option String) (rs : List Repository)
    (cells : Cache.Cells Key Bool) (s : Session) :
    ((batch c lookup rs).run cells s).2.bare = s.bare := by
  let everything : Scope := ⟨fun _ => True, fun _ => True⟩
  refine (Cache.Cells.compute_keeps (V := fun _ _ => True) (everything.sparesReading_bare s.bare)
    (fun _ _ => trivial) (fun call _ => ?_) _ s rfl).1
  exact Conversation.sends_of_forall (fun _ => trivial) (fun _ => trivial) _

/-- Normalization as a batch of calls for any cells that hold the verdicts of the session. -/
theorem normalizeAll_eq {cells : Cache.Cells Key Bool} (hcells : cells.values = s.normalized)
    (rs : List Repository) :
    let ran := (batch c s.lookup (rs.map canonical)).run cells s
    normalizeAll c rs s =
      (((rs.map canonical).zip ran.1.callers).map fun (r, caller) => caller.value?.bind (answer r),
        { ran.2 with normalized := ran.1.cache }) := by
  have hvalues : (Cache.Cells.ofCache s.normalized).values = cells.values := by
    rw [Cache.Cells.values_ofCache, hcells]
  obtain ⟨hs, hcache, hcallers⟩ := Cache.Cells.compute_congr hvalues
    (batch c s.lookup (rs.map canonical)).waits (batch c s.lookup (rs.map canonical)).calls s
  dsimp only
  rw [Cache.Batch.run, ← hs, ← hcache, ← hcallers]
  rfl

/-- Normalized together, repositories leave the verdicts that they leave one after the other. -/
theorem normalizeAll_goesOn (hw : w.network.IsSteady) (hs : s.world = w)
    (hdistinct : (s.normalized.map Prod.fst).Nodup) (rs : List Repository) :
    w.GoesOn c rs [] s (normalizeAll c rs s).2 := by
  subst hs
  let cells := Cache.Cells.ofCache s.normalized
  have hvalues : cells.values = s.normalized := Cache.Cells.values_ofCache s.normalized
  have hbare := batch_run_bare c s.lookup (rs.map canonical) cells s
  have hworld := Session.world_eq_of_bare_eq hbare
  have hmetadata := Session.metadata_eq_of_bare_eq hbare
  refine ⟨hworld, fun k => ?_, fun k => ?_⟩
  · have hdistinct : (cells.values.map Prod.fst).Nodup := hvalues ▸ hdistinct
    have hrun := Cache.Batch.get?_run (b := batch c s.lookup (rs.map canonical)) hdistinct
      (fun call hcall => by obtain ⟨r, -, rfl⟩ := List.mem_map.1 hcall; rfl) hw k
    refine hrun.trans ?_
    rw [Cache.Batch.expected, hvalues, batch, Cache.firstValue_map]
    rfl
  · rw [← hmetadata]
    exact (Option.or_none ..).symm

end Normalization

theorem Operation.goesOn (hw : w.network.IsSteady) (hs : s.world = w)
    (hdistinct : (s.normalized.map Prod.fst).Nodup) (operation : Operation) :
    w.GoesOn c (operation.normalized c) (operation.asked c s) s (operation.after c s) := by
  cases hsequential : operation.isSequential with
  | true => exact goesOn_of_isSequential hw hs hsequential
  | false =>
      cases operation with
      | normalizeAll rs => exact normalizeAll_goesOn hw hs hdistinct rs
      | _ => cases hsequential

/-- After its normalizations an operation sends nothing but requests for files. -/
theorem Operation.within_after {operation : Operation} (h : operation.isSequential) :
    Session.Within Scope.reading ((operation.normalized c).mapM (Normalization.normalize c) s).2
      (operation.after c s) :=
  after_of_normalized (Scope.reading.spares_within _) h (.refl _ _)

namespace Normalization

theorem get?_normalizeAll (hs : s.network.IsSteady) (hdistinct : (s.normalized.map Prod.fst).Nodup)
    (rs : List Repository) (key : Key) :
    (normalizeAll c rs s).2.normalized.get? key =
      (rs.mapM (normalize c) s).2.normalized.get? key := by
  have htogether := normalizeAll_goesOn (w := s.world) (c := c) hs rfl hdistinct rs
  have hinorder := mapM_normalize_goesOn (w := s.world) (c := c) hs rfl rs
  rw [htogether.normalized, hinorder.normalized]

/-- The answer to a repository is its own description with the canonical URI, if there is one. -/
theorem IsAnswered.own {cache : Cache Key Bool} {rs : List Repository}
    {found : List (Option Repository)} (h : IsAnswered cache rs found) :
    List.Forall₂ (fun r r' => r' = none ∨ r' = some { r with uri := r.canonicalUri }) rs found := by
  refine h.imp ?_
  rintro r _ ⟨usable, -, rfl⟩
  cases usable with
  | false => exact .inl rfl
  | true => exact .inr rfl

/-- What can be relied on when verdicts are shared, from this session on. -/
structure SharesVerdicts (c : Configuration) (s : Session) : Prop where
  /-- In a steady world repositories can as well be normalized together. -/
  together : s.network.IsSteady → ∀ rs,
    (normalizeAll c rs s).1 = (rs.mapM (normalize c) s).1 ∧
    (∀ key, (normalizeAll c rs s).2.normalized.get? key =
      (rs.mapM (normalize c) s).2.normalized.get? key) ∧
    (normalizeAll c rs s).2.normalized.Perm (rs.mapM (normalize c) s).2.normalized
  own : ∀ rs, ∀ found ∈ [(normalizeAll c rs s).1, (rs.mapM (normalize c) s).1],
    List.Forall₂ (fun r r' => r' = none ∨ r' = some { r with uri := r.canonicalUri }) rs found
  /-- Whoever asks for a verdict that is there is answered without anything being sent. -/
  answered : ∀ key usable, s.normalized.get? key = some usable →
    ∀ r, Normalization.key r.canonical = key → normalize c r s = (answer r.canonical usable, s)
  stays : ∀ key usable, s.normalized.get? key = some usable →
    ∀ events, (s.run c events).normalized.get? key = some usable
  /-- Whatever else an operation does than normalizing one repository after the other, it leaves
  verdicts alone and sends nothing but requests for files. -/
  reads : ∀ operation : Operation, operation.isSequential →
    let normalized := ((operation.normalized c).mapM (normalize c) s).2
    (operation.after c s).normalized = normalized.normalized ∧
      Session.Within Scope.reading normalized (operation.after c s)
  /-- Repositories that are normalized together take such steps as the next field is about. -/
  steps : ∀ (rs : List Repository) (cells : Cache.Cells Key Bool) (events : Nat),
    ReflTransGen Cache.Table.Step { cells }
      ((batch c s.lookup (rs.map canonical)).after cells events s).1
  /-- Cells that abandoned callers left empty make no difference to those who come later. -/
  empty : ∀ cells : Cache.Cells Key Bool, cells.values = s.normalized → ∀ rs,
    let ran := (batch c s.lookup (rs.map canonical)).run cells s
    normalizeAll c rs s =
      (((rs.map canonical).zip ran.1.callers).map fun (r, caller) => caller.value?.bind (answer r),
        { ran.2 with normalized := ran.1.cache })
  /-- However normalizations are mixed, no key gets a verdict twice, and when it has one nobody
  computes it. -/
  mixed : ∀ cells : Cache.Cells Key Bool, cells.values = s.normalized →
    ∀ t, ReflTransGen Cache.Table.Step { cells } t →
    Reached c t.cache ∧ (t.endings.map Cache.Ending.key).Nodup ∧
    ∀ key usable, t.cache.get? key = some usable → ∀ t', ReflTransGen Cache.Table.Step t t' →
      t'.cache.get? key = some usable ∧
      (∀ d ∈ t'.callers, d.call.key = key → ∀ wake rest, d.status ≠ .busy wake rest) ∧
      ∀ e ∈ t'.endings, e.key = key → e ∈ t.endings

theorem sharesVerdicts (hs : Reached c s.normalized) : SharesVerdicts c s := by
  have hdistinct := hs.distinct
  have hrefl : Cache.Grown s.normalized s.normalized := ⟨hdistinct, List.prefix_rfl⟩
  constructor
  case together =>
    intro hsteady rs
    have hget? := get?_normalizeAll (c := c) hsteady hdistinct rs
    have htogether := (normalizeAll_grown (c := c) rs s hrefl).1.distinct
    have hinorder := (mapM_normalize_grown (c := c) rs hrefl).distinct
    refine ⟨?_, hget?, ?_⟩
    · exact (mapM_normalize_isAnswered hdistinct rs).unique
        (normalizeAll_isAnswered hdistinct rs) hget?
    · -- Neither cache has a key twice, so they have the same entries if they answer the same.
      rw [List.perm_ext_iff_of_nodup (List.Nodup.of_map _ htogether)
        (List.Nodup.of_map _ hinorder)]
      rintro ⟨key, usable⟩
      rw [← Cache.get?_eq_some_iff_mem htogether, hget?, Cache.get?_eq_some_iff_mem hinorder]
  case own =>
    intro rs
    simp only [List.forall_mem_cons]
    exact ⟨(normalizeAll_isAnswered hdistinct rs).own, (mapM_normalize_isAnswered hdistinct rs).own,
      nofun⟩
  case answered =>
    rintro _ usable hvalue r rfl
    exact normalize_of_some hvalue
  case stays =>
    intro key usable hvalue events
    exact (Session.run_grown events hrefl).get? hvalue
  case reads =>
    intro operation hsequential
    exact ⟨Operation.normalized_after hsequential, Operation.within_after hsequential⟩
  case steps =>
    intro rs cells events
    exact (batch c s.lookup (rs.map canonical)).steps_after cells events s
  case empty =>
    intro cells hcells rs
    exact normalizeAll_eq hcells rs
  case mixed =>
    intro cells hcells t ht
    rw [← hcells] at hs hdistinct
    obtain ⟨hshared, -, -⟩ := (Cache.Table.isShared_start hdistinct).steps ht
    refine ⟨.shared hs ht, hshared.nodup_endings, fun key usable hvalue t' ht' => ?_⟩
    obtain ⟨hshared', hcache, hendings⟩ := hshared.steps ht'
    have hvalue' := hcache.lookup_eq_some hvalue
    refine ⟨hvalue', fun d hd hkey => hshared'.not_isBusyWith hvalue' hd hkey, fun e he hkey => ?_⟩
    exact hshared'.mem_endings hshared hendings hvalue he hkey

/-- A repository on a server that can not be reached has been normalized. -/
theorem sharesVerdicts_after_failure :
    let s := (Operation.normalize { id := "a", uri := "http://a.b" }).after {} {}
    s.normalized = [(⟨"http://a.b", false⟩, false)] ∧ SharesVerdicts {} s :=
  ⟨by decide +kernel, sharesVerdicts (.operation (s := {}) _ .empty)⟩

end Normalization

end Depot
