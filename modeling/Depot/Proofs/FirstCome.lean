import Depot.Proofs.KeyPhases
import Depot.Proofs.Stages

/-!
Caches in a world that answers the same way every time. Whoever comes first for a key settles its
value, and the value is what is found out in a session that has just begun.
-/

namespace Depot

open Http Normalization Repository Run

namespace Cache

variable {κ α β : Type} {key : β → κ} {value : β → α}

/-- This is the first one that has the key. -/
def IsFirst (key : β → κ) (xs : List β) (k : κ) (first : β) : Prop :=
  key first = k ∧ ∃ before after, xs = before ++ first :: after ∧ ∀ x ∈ before, key x ≠ k

theorem IsFirst.mem {xs : List β} {k : κ} {first : β} (h : IsFirst key xs k first) :
    first ∈ xs := by
  obtain ⟨-, before, after, rfl, -⟩ := h
  exact List.mem_append_right before List.mem_cons_self

variable [BEq κ]

/-- The value of the first one that has the key. -/
def firstValue (key : β → κ) (value : β → α) (xs : List β) (k : κ) : Option α :=
  (xs.find? fun x => key x == k).map value

theorem firstValue_append (xs ys : List β) (k : κ) :
    firstValue key value (xs ++ ys) k =
      (firstValue key value xs k).or (firstValue key value ys k) := by
  rw [firstValue, List.find?_append]
  cases hfind : xs.find? fun x => key x == k <;> simp [firstValue, hfind]

theorem firstValue_map {γ : Type} (f : γ → β) (xs : List γ) (k : κ) :
    firstValue key value (xs.map f) k = firstValue (key ∘ f) (value ∘ f) xs k := by
  rw [firstValue, List.find?_map, Option.map_map]
  rfl

/-- Whoever comes last for a key has the value of the first one, who may be the same. -/
theorem exists_isFirst [LawfulBEq κ] (key : β → κ) (value : β → α) (xs : List β) (x : β) :
    ∃ first, IsFirst key (xs ++ [x]) (key x) first ∧
      (firstValue key value xs (key x)).getD (value x) = value first := by
  cases hfind : xs.find? fun y => key y == key x with
  | none =>
      have hnone := List.find?_eq_none.1 hfind
      refine ⟨x, ⟨rfl, xs, [], rfl, fun y hy hkey => ?_⟩, by rw [firstValue, hfind]; rfl⟩
      exact hnone y hy (beq_iff_eq.2 hkey)
  | some first =>
      obtain ⟨hkey, before, after, rfl, hbefore⟩ := List.find?_eq_some_iff_append.1 hfind
      refine ⟨first, ⟨eq_of_beq hkey, before, after ++ [x], by simp, fun y hy => ?_⟩,
        by rw [firstValue, hfind]; rfl⟩
      simpa using hbefore y hy

/-- A key keeps its value, and gets one if it has none. -/
theorem get?_put [LawfulBEq κ] (cache : Cache κ α) (x : β) (k : κ) :
    (cache.put (key x) (value x)).get? k = (cache.get? k).or (firstValue key value [x] k) := by
  by_cases hk : key x = k
  · subst hk
    cases hvalue : cache.get? (key x) with
    | some v =>
        rw [put, hvalue]
        exact hvalue
    | none =>
        rw [get?_put_self hvalue]
        simp [firstValue]
  · rw [get?_put_of_ne (Ne.symm hk)]
    simp [firstValue, hk]

end Cache

variable {w : World} {c : Configuration} {s s' s'' : Session}

/-- The verdict on a repository in canonical form, if it is reached in the beginning. -/
def World.usable (w : World) (c : Configuration) (r : Repository) : Bool :=
  (verdict c w.lookup r).endIn w.network

/-- The answer to a question that is asked in the beginning. -/
def World.found (w : World) (settings : Settings) (q : Question) : Option Metadata :=
  (q.lookUp settings w.start).1

/-- How a session goes on in a world: these repositories are normalized and this metadata is asked
for, and whoever comes first for a key settles its value. -/
structure World.GoesOn (w : World) (c : Configuration) (normalized : List Repository)
    (asked : List Question) (s s' : Session) : Prop where
  world : s'.world = w
  normalized : ∀ k, s'.normalized.get? k = (s.normalized.get? k).or
    (Cache.firstValue Normalization.key (w.usable c) (normalized.map canonical) k)
  metadata : ∀ k, s'.metadata.get? k = (s.metadata.get? k).or
    (Cache.firstValue Question.key (w.found c.settings) asked k)

namespace World.GoesOn

variable {rs rs' : List Repository} {qs qs' : List Question}

theorem refl (hs : s.world = w) : w.GoesOn c [] [] s s :=
  ⟨hs, fun _ => (Option.or_none ..).symm, fun _ => (Option.or_none ..).symm⟩

theorem trans (h : w.GoesOn c rs qs s s') (h' : w.GoesOn c rs' qs' s' s'') :
    w.GoesOn c (rs ++ rs') (qs ++ qs') s s'' where
  world := h'.world
  normalized k := by
    rw [h'.normalized, h.normalized, Option.or_assoc, List.map_append, Cache.firstValue_append]
  metadata k := by
    rw [h'.metadata, h.metadata, Option.or_assoc, Cache.firstValue_append]

theorem of_bare_eq (h : w.GoesOn c rs qs s s') (hbare : s''.bare = s'.bare) :
    w.GoesOn c rs qs s s'' where
  world := (Session.world_eq_of_bare_eq hbare).trans h.world
  normalized k := by
    rw [Session.normalized_eq_of_bare_eq hbare]
    exact h.normalized k
  metadata k := by
    rw [Session.metadata_eq_of_bare_eq hbare]
    exact h.metadata k

end World.GoesOn

-- What verdicts and documents say is of no interest here, and unfolding them means reading them.
attribute [local irreducible] verdict Resolution.lookUp

namespace Normalization

theorem normalize_of_some {r : Repository} {usable : Bool}
    (h : s.normalized.get? (key r.canonical) = some usable) :
    normalize c r s = (answer r.canonical usable, s) := by
  rw [normalize, bind_apply, get_apply]
  dsimp only
  rw [h]
  rfl

theorem normalize_of_none {r : Repository} (h : s.normalized.get? (key r.canonical) = none) :
    normalize c r s =
      let held := Session.hold (verdict c s.lookup r.canonical) s
      (answer r.canonical held.1,
        { held.2 with normalized := held.2.normalized.put (key r.canonical) held.1 }) := by
  rw [normalize, bind_apply, get_apply]
  dsimp only
  rw [h]
  rfl

/-- In a steady world a repository is normalized as the first one with its key was. -/
theorem normalize_goesOn (hw : w.network.IsSteady) (hs : s.world = w) (r : Repository) :
    (normalize c r s).1 = answer r.canonical
        ((s.normalized.get? (key r.canonical)).getD (w.usable c r.canonical)) ∧
      w.GoesOn c [r] [] s (normalize c r s).2 := by
  cases hvalue : s.normalized.get? (key r.canonical) with
  | some usable =>
      rw [normalize_of_some hvalue]
      refine ⟨rfl, hs, fun k => ?_, fun k => (Option.or_none ..).symm⟩
      rw [List.map_singleton, ← Cache.get?_put, Cache.put, hvalue]
  | none =>
      obtain ⟨hheld, hbare⟩ := Tells.hold hw (verdict c s.lookup r.canonical) s hs
      subst hs
      rw [normalize_of_none hvalue]
      have hcache := Session.normalized_eq_of_bare_eq hbare
      have hmetadata := Session.metadata_eq_of_bare_eq hbare
      have hworld := Session.world_eq_of_bare_eq hbare
      refine ⟨congrArg (answer r.canonical) hheld, hworld, fun k => ?_, fun k => ?_⟩
      · rw [List.map_singleton, ← Cache.get?_put]
        dsimp only
        rw [hcache, hheld]
        rfl
      · dsimp only
        rw [hmetadata]
        exact (Option.or_none ..).symm

theorem mapM_normalize_goesOn (hw : w.network.IsSteady) (hs : s.world = w) (rs : List Repository) :
    w.GoesOn c rs [] s (rs.mapM (normalize c) s).2 := by
  induction rs generalizing s with
  | nil => exact .refl hs
  | cons r rs ih =>
      have hr := (normalize_goesOn (c := c) hw hs r).2
      rw [mapM_cons_apply]
      exact hr.trans (ih hr.world)

end Normalization

namespace Resolution

variable {settings : Settings} {a : Access} {ga : GroupArtifact} {versionDirectory : Option String}

theorem resolve_of_some {m : Option Metadata}
    (h : s.metadata.get? (key a ga versionDirectory) = some m) :
    resolve settings a ga versionDirectory s = (m, s) := by
  rw [resolve, bind_apply, get_apply]
  dsimp only
  rw [h]
  rfl

theorem resolve_of_none (h : s.metadata.get? (key a ga versionDirectory) = none) :
    resolve settings a ga versionDirectory s =
      let looked := lookUp settings a ga versionDirectory s
      (looked.1, { looked.2 with
        metadata := looked.2.metadata.put (key a ga versionDirectory) looked.1 }) := by
  rw [resolve, bind_apply, get_apply]
  dsimp only
  rw [h]
  rfl

end Resolution

namespace Question

variable {settings : Settings} {q : Question}

theorem resolve_of_some {m : Option Metadata} (h : s.metadata.get? q.key = some m) :
    q.resolve settings s = (m, s) :=
  Resolution.resolve_of_some h

theorem resolve_of_none (h : s.metadata.get? q.key = none) :
    q.resolve settings s =
      let looked := q.lookUp settings s
      (looked.1, { looked.2 with metadata := looked.2.metadata.put q.key looked.1 }) :=
  Resolution.resolve_of_none h

theorem lookUp_tells (hw : w.network.IsSteady) (settings : Settings) (q : Question) :
    Tells w (q.lookUp settings) (w.found settings q) := by
  have hagree : Agree w (q.lookUp settings) (q.lookUp settings) :=
    Resolution.lookUp_agree hw ⟨rfl, fun _ _ => rfl⟩ rfl fun _ => rfl
  exact hagree.tells w.world_start

/-- In a steady world a question is answered as the first one with its key was. -/
theorem resolve_goesOn (hw : w.network.IsSteady) (hs : s.world = w) (q : Question) :
    (q.resolve c.settings s).1 = (s.metadata.get? q.key).getD (w.found c.settings q) ∧
      w.GoesOn c [] [q] s (q.resolve c.settings s).2 := by
  cases hvalue : s.metadata.get? q.key with
  | some m =>
      rw [resolve_of_some hvalue]
      refine ⟨rfl, hs, fun k => (Option.or_none ..).symm, fun k => ?_⟩
      rw [← Cache.get?_put, Cache.put, hvalue]
  | none =>
      obtain ⟨hfound, hbare⟩ := lookUp_tells hw c.settings q s hs
      have hcache := Session.normalized_eq_of_bare_eq hbare
      have hmetadata := Session.metadata_eq_of_bare_eq hbare
      have hworld := Session.world_eq_of_bare_eq hbare
      rw [resolve_of_none hvalue]
      refine ⟨hfound, hworld.trans hs, fun k => ?_, fun k => ?_⟩
      · dsimp only
        rw [hcache]
        exact (Option.or_none ..).symm
      · rw [← Cache.get?_put]
        dsimp only
        rw [hmetadata, hfound]

theorem mapM_resolve_goesOn (hw : w.network.IsSteady) (hs : s.world = w) (qs : List Question) :
    w.GoesOn c [] qs s (qs.mapM (Question.resolve c.settings) s).2 := by
  induction qs generalizing s with
  | nil => exact .refl hs
  | cons q qs ih =>
      have hq := (resolve_goesOn (c := c) hw hs q).2
      rw [mapM_cons_apply]
      exact hq.trans (ih hq.world)

end Question

theorem Operation.goesOn_of_isSequential (hw : w.network.IsSteady) (hs : s.world = w)
    {operation : Operation} (h : operation.isSequential) :
    w.GoesOn c (operation.normalized c) (operation.asked c s) s (operation.after c s) := by
  have hnormalized := mapM_normalize_goesOn (c := c) hw hs (operation.normalized c)
  have hasked := Question.mapM_resolve_goesOn (c := c) hw hnormalized.world (operation.asked c s)
  have hcached := hnormalized.trans hasked
  rw [List.append_nil, List.nil_append] at hcached
  exact hcached.of_bare_eq
    (after_stages (Scope.reading.sparesReading_bare (operation.cached c s).bare) h rfl)

end Depot
