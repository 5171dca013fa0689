import Depot.Proofs.HostSafety
import Depot.Proofs.Inquiries

/-!
What the cache of verdicts can be told by. A verdict is kept for a URI and whether there are
credentials, but it is reached on one description, and whether that one is known to exist and as
whom it is asked for counts for all others with the same key. So an answer depends on what was
normalized before only through the first description with the key.
-/

namespace Depot.Normalization

open Http Repository

variable {w : World} {c : Configuration}

theorem knownToExist_canonical (r : Repository) : r.canonical.knownToExist = r.knownToExist := by
  rw [canonical]

theorem credentials_canonical (r : Repository) : r.canonical.credentials = r.credentials := by
  rw [canonical, credentials]
  rfl

/-- Of permitted URIs the verdict depends on whether they are known to exist, and if they are not,
on the credentials that are sent. Of all others it depends on nothing else. -/
theorem verdict_congr {lookup : String → Option String} {r r' : Repository} (huri : r.uri = r'.uri)
    (h : c.Permits r'.uri → r.knownToExist = r'.knownToExist ∧
      (r'.knownToExist = false → r.credentials.bind (Credentials.resolve? lookup) =
        r'.credentials.bind (Credentials.resolve? lookup))) :
    verdict c lookup r = verdict c lookup r' := by
  unfold verdict
  rw [huri, localPath?_congr huri]
  split
  · rfl
  · rename_i u hu
    split
    · rfl
    · split
      · rename_i hscheme
        split
        · rfl
        · rename_i hchecked
          have hpermits : c.Permits r'.uri :=
            ⟨u, hu, by simpa using hscheme, by simpa using hchecked⟩
          obtain ⟨hknown, hcredentials⟩ := h hpermits
          rw [hknown]
          split
          · rfl
          · rename_i hunknown
            rw [Conversation.negotiate_congr (hcredentials (by simpa using hunknown))]
      · rfl

-- From here on it is of no interest what a verdict says and what a canonical URI is.
attribute [local irreducible] verdict canonical

@[simp] theorem isSome_answer (r : Repository) (usable : Bool) :
    (answer r usable).isSome = usable := by
  cases usable <;> rfl

theorem normalize_start (hw : w.network.IsSteady) (r : Repository) :
    (normalize c r w.start).1 = answer r.canonical (w.usable c r.canonical) :=
  (normalize_goesOn hw w.world_start r).1

/-- In a world that does not change a repository is answered as the first one that was normalized
with its key is answered when nothing was normalized before, which may be the repository itself. So
it gets the answer that it would get then exactly if the two are as usable. That is so if the URI is
none that is asked over the network, and if both are known to exist, or both are not and are asked
for with the same credentials. -/
theorem normalize_eq_first (hw : w.network.IsSteady) (inquiries : List Inquiry) (r : Repository) :
    let s := w.start.inquire c inquiries
    ∃ first, Cache.IsFirst (fun r => key r.canonical)
        (inquiries.flatMap (Inquiry.normalized c) ++ [r]) (key r.canonical) first ∧
      (normalize c r s).1 = answer r.canonical (normalize c first w.start).1.isSome ∧
      ((normalize c r s).1 = (normalize c r w.start).1 ↔
        (normalize c first w.start).1.isSome = (normalize c r w.start).1.isSome) ∧
      ((c.Permits r.canonical.uri → first.knownToExist = r.knownToExist ∧
        (r.knownToExist = false → first.credentials.bind (Credentials.resolve? w.lookup) =
          r.credentials.bind (Credentials.resolve? w.lookup))) →
        (normalize c r s).1 = (normalize c r w.start).1) := by
  intro s
  have hs := w.start.inquire_goesOn (c := c) hw w.world_start List.nodup_nil inquiries
  obtain ⟨first, hfirst, hvalue⟩ := Cache.exists_isFirst (fun r => key r.canonical)
    (fun r => w.usable c r.canonical) (inquiries.flatMap (Inquiry.normalized c)) r
  have hanswer : (normalize c r s).1 = answer r.canonical (w.usable c first.canonical) := by
    rw [(normalize_goesOn hw hs.world r).1, hs.normalized, Cache.firstValue_map, ← hvalue]
    rfl
  refine ⟨first, hfirst, ?_, ?_, fun hsame => ?_⟩
  · rw [normalize_start hw, isSome_answer, hanswer]
  · rw [normalize_start hw, normalize_start hw, isSome_answer, isSome_answer, hanswer]
    constructor
    · intro h
      simpa using congrArg Option.isSome h
    · intro h
      rw [h]
  · have huri : first.canonical.uri = r.canonical.uri := congrArg Key.uri hfirst.1
    have hverdict : verdict c w.lookup first.canonical = verdict c w.lookup r.canonical := by
      refine verdict_congr huri ?_
      simpa only [knownToExist_canonical, credentials_canonical] using hsame
    rw [normalize_start hw, hanswer, World.usable, World.usable, hverdict]

/-- Two descriptions of a repository on a server that can not be reached. -/
theorem normalize_eq_start_of_twin :
    let a : Repository := { id := "a", uri := "http://a.b" }
    let b : Repository := { id := "b", uri := "http://a.b/" }
    let w : World := {}
    w.network.IsSteady ∧ (normalize {} b (w.start.inquire {} [.carryOut (.normalize a)])).1 =
      (normalize {} b w.start).1 := by
  intro a b w
  refine ⟨Network.isSteady_empty, ?_⟩
  obtain ⟨first, hfirst, -, -, hsame⟩ :=
    normalize_eq_first (c := {}) (w := w) Network.isSteady_empty [.carryOut (.normalize a)] b
  have hmem : first = a ∨ first ∈ [b] := List.mem_cons.1 hfirst.mem
  refine hsame fun _ => ?_
  rcases hmem with rfl | hmem
  · exact ⟨rfl, fun _ => rfl⟩
  · rw [List.mem_singleton.1 hmem]
    exact ⟨rfl, fun _ => rfl⟩

/-- The cache can be told by its answers: a repository that is known to exist is not usable if it
was not known to exist, and could not be reached, when it was normalized first. -/
theorem not_forall_normalize_eq_start :
    ¬ ∀ (c : Configuration) (w : World), w.network.IsSteady →
      ∀ (rs : List Repository) (r : Repository),
        (normalize c r (rs.mapM (normalize c) w.start).2).1 = (normalize c r w.start).1 := by
  intro h
  have heq := h {} {} Network.isSteady_empty [{ id := "a", uri := "http://a.b" }]
    { id := "a", uri := "http://a.b", knownToExist := true }
  exact absurd heq (by decide +kernel)

end Depot.Normalization
