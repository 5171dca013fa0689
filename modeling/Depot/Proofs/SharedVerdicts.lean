import Depot.Proofs.FirstCome
import Depot.Proofs.Verdicts
import Mathlib.Logic.Relation

/-!
Verdicts as everybody shares them. The cache only grows, so that the verdict on a key is reached
once: from then on nobody computes it, whichever operations follow and however normalizations that
go on at the same time are mixed.
-/

namespace Depot

open Http Normalization Repository Run Relation

namespace Cache

variable {κ α : Type} [BEq κ] {before cache cache' : Cache κ α}

/-- What was there is still there, and no key is there twice. -/
structure Grown (before cache : Cache κ α) : Prop where
  distinct : (cache.map Prod.fst).Nodup
  still : before <+: cache

theorem prefix_put (cache : Cache κ α) (key : κ) (value : α) : cache <+: cache.put key value := by
  unfold put
  split
  · exact List.prefix_rfl
  · exact List.prefix_append cache _

theorem Grown.put [LawfulBEq κ] (h : Grown before cache) (key : κ) (value : α) :
    Grown before (cache.put key value) :=
  ⟨nodup_put h.distinct key value, h.still.trans (prefix_put cache key value)⟩

theorem Grown.get? (h : Grown before cache) {key : κ} {value : α}
    (hvalue : before.get? key = some value) : cache.get? key = some value :=
  h.still.lookup_eq_some hvalue

namespace Table

variable {t t' : Table κ α}

/-- One step of callers that share a cache: somebody makes a call, or something happens to somebody
who made one. Nothing is said of the order, and everybody may be abandoned at any time. -/
inductive Step (t t' : Table κ α) : Prop
  | call (call : Call κ α) (deadline : Option Nat) : t.Enters call deadline t' → Step t t'
  | event {k : Nat} {c : Caller κ α} {time : Nat} :
      t.callers[k]? = some c → t.Happens k c time t' → Step t t'

theorem Proceeds.grows {k : Nat} {key : κ} {x : Conversation α} (h : t.Proceeds k key x t') :
    t.cache <+: t'.cache ∧ t.endings <+: t'.endings := by
  cases h with
  | ends value _ =>
      rw [cache_finish]
      exact ⟨prefix_put t.cache key value, List.prefix_append t.endings _⟩
  | waits _ _ _ => exact ⟨List.prefix_rfl, List.prefix_rfl⟩

theorem Step.grows (h : t.Step t') : t.cache <+: t'.cache ∧ t.endings <+: t'.endings := by
  have hrefl : t.cache <+: t.cache ∧ t.endings <+: t.endings := ⟨List.prefix_rfl, List.prefix_rfl⟩
  have hadd : ∀ c, (t.add c).cache = t.cache := cache_add t
  cases h with
  | call call deadline henters =>
      cases henters with
      | finds _ _ => exact (hadd _).symm ▸ hrefl
      | joins _ _ => exact (hadd _).symm ▸ hrefl
      | begins _ _ hproceeds => exact hadd _ ▸ hproceeds.grows
  | event _ hhappens =>
      cases hhappens with
      | goesOn _ _ hproceeds => exact hproceeds.grows
      | leaves _ _ _ => exact hrefl
      | passes _ _ _ hproceeds => exact hproceeds.grows
      | givesUp _ => exact hrefl
      | stays _ => exact hrefl

/-- For each key things stand in one of the three ways, and every value is accounted for. -/
structure IsShared (before : Cache κ α) (t : Table κ α) : Prop where
  phase : ∀ key, t.Phase key
  accounts : t.Accounts before

theorem IsShared.step [LawfulBEq κ] (h : t.IsShared before) (hstep : t.Step t') :
    t'.IsShared before := by
  cases hstep with
  | call call deadline henters =>
      exact ⟨henters.phase h.phase, h.accounts.enters (h.phase call.key) henters⟩
  | event hk hhappens =>
      exact ⟨hhappens.phase hk h.phase, h.accounts.happens h.phase hk hhappens⟩

theorem IsShared.steps [LawfulBEq κ] (h : t.IsShared before) (hsteps : ReflTransGen Step t t') :
    t'.IsShared before ∧ t.cache <+: t'.cache ∧ t.endings <+: t'.endings := by
  induction hsteps with
  | refl => exact ⟨h, List.prefix_rfl, List.prefix_rfl⟩
  | tail _ hstep ih =>
      obtain ⟨hshared, hcache, hendings⟩ := ih
      obtain ⟨hcache', hendings'⟩ := hstep.grows
      exact ⟨hshared.step hstep, hcache.trans hcache', hendings.trans hendings'⟩

theorem isShared_start {cells : Cells κ α} (hcells : (cells.values.map Prod.fst).Nodup) :
    IsShared cells.values { cells } :=
  have horderly := start_isOrderly hcells 0
  ⟨horderly.phase, horderly.accounts⟩

/-- Nobody computes a value that is there. -/
theorem IsShared.not_isBusyWith (h : t.IsShared before) {key : κ} {value : α}
    (hvalue : t.cache.get? key = some value) {c : Caller κ α} (hc : c ∈ t.callers)
    (hkey : c.call.key = key) : ∀ wake rest, c.status ≠ .busy wake rest := by
  subst hkey
  intro wake rest hbusy
  obtain ⟨k, hk⟩ := List.mem_iff_getElem?.1 hc
  have hturn := (h.phase c.call.key).isTurnOf hk hbusy
  exact absurd (hturn.absent.symm.trans hvalue) nofun

/-- Computations that end later are for other keys than those whose values are there. -/
theorem IsShared.mem_endings [LawfulBEq κ] (h : t'.IsShared before) (ht : t.IsShared before)
    (hendings : t.endings <+: t'.endings) {key : κ} {value : α}
    (hvalue : t.cache.get? key = some value) {e : Ending κ α} (he : e ∈ t'.endings)
    (hkey : e.key = key) : e ∈ t.endings := by
  obtain ⟨more, hmore⟩ := hendings
  rw [← hmore] at he
  rcases List.mem_append.1 he with he | he
  · exact he
  · -- Had it ended later, its key would be in the cache twice.
    have hcache : t'.cache = t.cache ++ more.map Ending.entry := by
      rw [h.accounts.cache, ht.accounts.cache, ← hmore, List.map_append, List.append_assoc]
    have hdistinct := h.accounts.distinct
    rw [hcache, List.map_append, List.nodup_append] at hdistinct
    have hthere : key ∈ t.cache.map Prod.fst := List.mem_map_of_mem (mem_of_get? hvalue)
    have hthen : key ∈ (more.map Ending.entry).map Prod.fst := by
      rw [List.map_map]
      exact List.mem_map.2 ⟨e, he, hkey⟩
    exact absurd rfl (hdistinct.2.2 key hthere key hthen)

theorem IsShared.nodup_endings (h : t.IsShared before) : (t.endings.map Ending.key).Nodup := by
  have hdistinct := h.accounts.distinct
  rw [h.accounts.cache, List.map_append, List.nodup_append, List.map_map] at hdistinct
  exact hdistinct.2.1

end Table

/-- Calls that are made together are such callers, at any moment. -/
theorem Batch.steps_after [LawfulBEq κ] (b : Batch κ α) (cells : Cells κ α) (events : Nat)
    (s : Session) : ReflTransGen Table.Step { cells } (b.after cells events s).1 := by
  have hentered := (Table.enter_induction
    (motive := fun _ t => ReflTransGen Table.Step { cells } t) b.calls [] { cells } s rfl .refl
    fun call _ _ _ _ ht henters => ht.tail (.call call _ henters)).1
  exact Table.settle_induction (motive := fun t _ => ReflTransGen Table.Step { cells } t)
    (fun _ _ _ _ _ _ ht hk _ hhappens => ht.tail (.event hk hhappens)) events hentered

end Cache

variable {c : Configuration} {before : Cache Key Bool} {s : Session}

namespace Normalization

theorem normalize_grown (r : Repository) :
    Keeps (fun s => Cache.Grown before s.normalized) (normalize c r) fun _ => True := by
  intro s hs
  cases hvalue : s.normalized.get? (key r.canonical) with
  | some usable =>
      rw [normalize_of_some hvalue]
      exact ⟨hs, trivial⟩
  | none =>
      have hheld := Session.normalized_eq_of_bare_eq (s.bare_hold (verdict c s.lookup r.canonical))
      rw [normalize_of_none hvalue]
      dsimp only
      rw [hheld]
      exact ⟨hs.put _ _, trivial⟩

theorem mapM_normalize_grown (rs : List Repository) (hs : Cache.Grown before s.normalized) :
    Cache.Grown before (rs.mapM (normalize c) s).2.normalized :=
  (Keeps.mapM (fun r _ => normalize_grown r) s hs).1

theorem normalizeAll_grown (rs : List Repository) :
    Keeps (fun s => Cache.Grown before s.normalized) (normalizeAll c rs) fun _ => True := by
  intro s hs
  let b := batch c s.lookup (rs.map canonical)
  rw [← Cache.Cells.values_ofCache s.normalized] at hs
  have haccounts := (b.run_isOrderly s hs.distinct).1.accounts
  exact ⟨⟨haccounts.distinct, hs.still.trans ⟨_, haccounts.cache.symm⟩⟩, trivial⟩

end Normalization

/-- After its normalizations an operation leaves verdicts alone. -/
theorem Operation.normalized_after {operation : Operation} (h : operation.isSequential) :
    (operation.after c s).normalized =
      ((operation.normalized c).mapM (Normalization.normalize c) s).2.normalized :=
  after_of_normalized (Scope.reading.spares_normalized
    (· = ((operation.normalized c).mapM (Normalization.normalize c) s).2.normalized)) h rfl

theorem Operation.after_grown (operation : Operation) (hs : Cache.Grown before s.normalized) :
    Cache.Grown before (operation.after c s).normalized := by
  cases hsequential : operation.isSequential with
  | true =>
      rw [normalized_after hsequential]
      exact mapM_normalize_grown _ hs
  | false =>
      cases operation with
      | normalizeAll rs => exact (normalizeAll_grown rs s hs).1
      | _ => cases hsequential

theorem Session.run_grown (events : List Event) (hs : Cache.Grown before s.normalized) :
    Cache.Grown before (s.run c events).normalized := by
  induction events generalizing s with
  | nil => exact hs
  | cons event events ih =>
      refine ih ?_
      cases event with
      | ask operation => exact operation.after_grown hs
      | change _ _ _ => exact hs

/-- Verdicts that can be there: after operations, in whatever world, and after normalizations that
were mixed in any order. -/
inductive Normalization.Reached (c : Configuration) : Cache Key Bool → Prop
  | empty : Reached c []
  | operation {s : Session} (operation : Operation) :
      Reached c s.normalized → Reached c (operation.after c s).normalized
  | shared {cells : Cache.Cells Key Bool} {t : Cache.Table Key Bool} :
      Reached c cells.values → ReflTransGen Cache.Table.Step { cells } t → Reached c t.cache

theorem Normalization.Reached.distinct {cache : Cache Key Bool} (h : Reached c cache) :
    (cache.map Prod.fst).Nodup := by
  induction h with
  | empty => exact List.nodup_nil
  | operation operation _ ih => exact (operation.after_grown ⟨ih, List.prefix_rfl⟩).distinct
  | shared _ hsteps ih => exact ((Cache.Table.isShared_start ih).steps hsteps).1.accounts.distinct

end Depot
