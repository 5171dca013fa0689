import Depot.Proofs.Inquiries
import Depot.Proofs.Locations

/-!
What the cache of metadata can be told by. An answer is kept for a URI, an artifact and a version
directory, but it is looked up for one description, and as whom that one asks and whether it lets
versions be listed counts for all others with the same URI. So an answer depends on what was asked
before only through the first question with the key.
-/

namespace Depot

open Http Repository Run

variable {w : World} {c : Configuration}

namespace Question

-- It is of no interest here what is looked up.
attribute [local irreducible] Resolution.lookUp

theorem resolve_start (hw : w.network.IsSteady) (q : Question) :
    (q.resolve c.settings w.start).1 = w.found c.settings q :=
  (resolve_goesOn hw w.world_start q).1

/-- Questions with the same key have the same answer if they are asked of a directory or with the
same credentials, and if neither or both of them let versions be listed where that matters. -/
theorem found_congr (hw : w.network.IsSteady) {settings : Settings} {q q' : Question}
    (hkey : q.key = q'.key)
    (hcredentials : ∀ base, q'.repository.access.place = .remote base →
      q.repository.credentials.bind (Credentials.resolve? w.lookup) =
        q'.repository.credentials.bind (Credentials.resolve? w.lookup))
    (hderive : q'.versionDirectory = none →
      q.repository.deriveMetadata = q'.repository.deriveMetadata) :
    w.found settings q = w.found settings q' := by
  obtain ⟨r, ga, versionDirectory⟩ := q
  obtain ⟨r', ga', versionDirectory'⟩ := q'
  simp only [key, Resolution.key, Access.uri, repository_access, Metadata.Key.mk.injEq] at hkey
  obtain ⟨huri, rfl, rfl⟩ := hkey
  have hplace := place_access_congr huri
  have hlocal : r.isLocal = r'.isLocal := by rw [isLocal, isLocal, huri]
  have hagree : Agree w (Resolution.lookUp settings r.access ga versionDirectory)
      (Resolution.lookUp settings r'.access ga versionDirectory) := by
    refine Resolution.lookUp_agree hw ⟨hplace, fun base hbase => ?_⟩ ?_ fun hnone => ?_
    · rw [repository_access, repository_access]
      exact hcredentials base (hplace ▸ hbase)
    · rw [repository_access, repository_access]
      exact hlocal
    · rw [repository_access, repository_access]
      exact hderive hnone
  exact (hagree.tells w.world_start w.start w.world_start).1

/-- In a world that does not change a question is answered with what is looked up for the first
question that was asked with its key, which may be the question itself. So it gets the answer that
it would get if nothing was asked before exactly if the same is looked up for both. That is so if
both are asked of a directory or with the same credentials, and neither or both let versions be
listed, or if they are about builds of a snapshot. -/
theorem resolve_eq_first (hw : w.network.IsSteady) (inquiries : List Inquiry) (q : Question) :
    let s := w.start.inquire c inquiries
    (q.resolve c.settings w.start).1 = (q.lookUp c.settings w.start).1 ∧
    ∃ first, Cache.IsFirst key (w.start.asked c inquiries ++ [q]) q.key first ∧
      (q.resolve c.settings s).1 = (first.lookUp c.settings w.start).1 ∧
      ((q.resolve c.settings s).1 = (q.resolve c.settings w.start).1 ↔
        (first.lookUp c.settings w.start).1 = (q.lookUp c.settings w.start).1) ∧
      ((∀ base, q.repository.access.place = .remote base →
          first.repository.credentials.bind (Credentials.resolve? w.lookup) =
            q.repository.credentials.bind (Credentials.resolve? w.lookup)) →
        (q.versionDirectory = none →
          first.repository.deriveMetadata = q.repository.deriveMetadata) →
        (q.resolve c.settings s).1 = (q.resolve c.settings w.start).1) := by
  intro s
  have hs := w.start.inquire_goesOn (c := c) hw w.world_start List.nodup_nil inquiries
  obtain ⟨first, hfirst, hvalue⟩ := Cache.exists_isFirst key (w.found c.settings)
    (w.start.asked c inquiries) q
  have hanswer : (q.resolve c.settings s).1 = w.found c.settings first := by
    rw [(resolve_goesOn hw hs.world q).1, hs.metadata, ← hvalue]
    rfl
  refine ⟨resolve_start hw q, first, hfirst, hanswer, ?_, fun hcredentials hderive => ?_⟩
  · rw [resolve_start hw, hanswer]
    rfl
  · rw [resolve_start hw, hanswer, found_congr hw hfirst.1 hcredentials hderive]

/-- A directory with one version of an artifact and no metadata. -/
def listed : World where
  files := Files.addDirectory [] (["r", "g", "a", "1.0"].map Text.Utf8.encode)

/-- The same directory is asked twice under different ids. -/
theorem resolve_eq_start_of_twin :
    let first : Question :=
      ⟨{ id := "a", uri := "file:///r", deriveMetadata := true }, ⟨"g", "a"⟩, none⟩
    let second : Question :=
      ⟨{ id := "b", uri := "file:///r", deriveMetadata := true }, ⟨"g", "a"⟩, none⟩
    listed.network.IsSteady ∧
      (second.resolve {} (listed.start.inquire {} [.resolve first])).1 =
        (second.resolve {} listed.start).1 := by
  intro first second
  refine ⟨Network.isSteady_empty, ?_⟩
  obtain ⟨-, asked, hasked, -, -, hsame⟩ :=
    resolve_eq_first (c := {}) (w := listed) Network.isSteady_empty [.resolve first] second
  have hmem : asked = first ∨ asked ∈ [second] := List.mem_cons.1 hasked.mem
  rcases hmem with rfl | hmem
  · exact hsame (fun _ _ => rfl) fun _ => rfl
  · rw [List.mem_singleton.1 hmem] at hsame
    exact hsame (fun _ _ => rfl) fun _ => rfl

/-- The cache can be told by its answers: if a directory was asked without letting versions be
listed, nothing is known of it from then on. -/
theorem not_forall_resolve_eq_lookUp :
    ¬ ∀ (c : Configuration) (w : World), w.network.IsSteady →
      ∀ (inquiries : List Inquiry) (q : Question),
        (q.resolve c.settings (w.start.inquire c inquiries)).1 =
          (q.lookUp c.settings w.start).1 := by
  intro h
  have heq := h {} listed Network.isSteady_empty
    [.resolve ⟨{ id := "a", uri := "file:///r" }, ⟨"g", "a"⟩, none⟩]
    ⟨{ id := "a", uri := "file:///r", deriveMetadata := true }, ⟨"g", "a"⟩, none⟩
  exact absurd heq (by decide +kernel)

end Question

end Depot
