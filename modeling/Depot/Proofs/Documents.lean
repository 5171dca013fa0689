import Depot.Metadata.Document
import Depot.Proofs.MergeAlgebra

/-!
Where metadata comes from: it is read from documents, told from listings, or merged from other
metadata. In all of it no version is there twice.
-/

namespace Depot.Metadata

/-- The ways in which metadata comes about. -/
inductive Arises : Metadata → Prop
  | read {bytes : Bytes} {m : Metadata} : ofBytes bytes = .ok m → Arises m
  | listed (ga : GroupArtifact) (versions : List String) : Arises (ofVersions ga versions)
  | merged {a b : Metadata} : Arises a → Arises b → Arises (a.merge b)

theorem nodup_distinct (versions : List String) : (distinct versions).Nodup :=
  distinct_eq_self_iff.1 (distinct_distinct versions)

theorem Arises.nodup_versions {m : Metadata} (h : m.Arises) : m.versions.Nodup := by
  cases h with
  | @read bytes _ hread =>
      unfold ofBytes at hread
      cases hroot : Markup.Reader.document Document.root bytes with
      | error fault =>
          rw [hroot] at hread
          cases hread
      | ok root =>
          rw [hroot] at hread
          cases hread
          exact nodup_distinct _
  | listed ga versions => exact nodup_distinct versions
  | merged _ _ => exact nodup_distinct _

/-- What was found, if anything was found, has come about in one of these ways. -/
def AllArise (found : Option Metadata) : Prop := ∀ m, found = some m → m.Arises

theorem allArise_none : AllArise none := nofun

theorem allArise_some {m : Metadata} (h : m.Arises) : AllArise (some m) := by
  rintro _ ⟨⟩
  exact h

end Depot.Metadata
