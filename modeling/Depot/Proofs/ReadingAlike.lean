import Depot.Proofs.Matching
import Depot.Resolution

/-!
Two ways of access to the same place. If the same files and answers are got through both, the same
metadata is looked up through them.
-/

namespace Depot

open Http Repository Run Session Text

variable {R : Session → Session → Prop} {settings : Settings} {a a' : Access}

namespace Repository.Access

/-- The same files are read from both. -/
def FetchAlike (R : Session → Session → Prop) (settings : Settings) (a a' : Access) : Prop :=
  ∀ path, Matches R (a.fetch settings path) (a'.fetch settings path) Eq

/-- The same directories are found in both. -/
def ListAlike (R : Session → Session → Prop) (settings : Settings) (a a' : Access) : Prop :=
  ∀ path, Matches R (a.list settings path) (a'.list settings path) Eq

theorem FetchAlike.of_place (hplace : a.place = a'.place)
    (hread : ∀ root path, a.place = .directory root →
      Matches R (readFile (Files.join root (Utf8.encode path)))
        (readFile (Files.join root (Utf8.encode path))) Eq)
    (hheld : ∀ base path, a.place = .remote base → ∀ s s', R s s' →
      Matches R
        (hold (.negotiate settings s.lookup (.get (base ++ path)) a.repository.credentials))
        (hold (.negotiate settings s'.lookup (.get (base ++ path)) a'.repository.credentials))
        Eq) :
    a.FetchAlike R settings a' := by
  intro path
  unfold fetch
  rw [← hplace]
  cases hroot : a.place with
  | directory root =>
      refine (hread root path hroot).bind_eq fun outcome => ?_
      split <;> exact Matches.pure rfl
  | remote base =>
      refine Matches.get.bind fun s s' hs => ?_
      exact (hheld base path hroot s s' hs).bind_eq fun _ => Matches.pure rfl

theorem ListAlike.of_place (hplace : a.place = a'.place)
    (hlist : ∀ root path, a.place = .directory root →
      Matches R (listDirectories (Files.join root (Utf8.encode path)))
        (listDirectories (Files.join root (Utf8.encode path))) Eq)
    (hfetch : a.FetchAlike R settings a') : a.ListAlike R settings a' := by
  intro path
  unfold list
  rw [← hplace]
  cases hroot : a.place with
  | directory root =>
      refine (hlist root path hroot).bind_eq fun outcome => ?_
      split <;> exact Matches.pure rfl
  | remote base =>
      refine (hfetch _).bind_eq fun outcome => ?_
      split <;> exact Matches.pure rfl

end Repository.Access

namespace Resolution

variable {ga : GroupArtifact} {versionDirectory : Option String}

theorem fetchDocument_matches (hfetch : a.FetchAlike R settings a') (path : String) :
    Matches R (fetchDocument settings a path) (fetchDocument settings a' path) Eq := by
  refine (hfetch path).bind_eq fun outcome => ?_
  split
  · split <;> exact Matches.pure rfl
  · exact Matches.pure rfl

theorem derive_matches (hlist : a.ListAlike R settings a') :
    Matches R (derive settings a ga) (derive settings a' ga) Eq :=
  (hlist _).bind_eq fun _ => Matches.pure rfl

/-- Listings count only where there are versions to be listed. -/
theorem lookUp_matches (hlocal : a.repository.isLocal = a'.repository.isLocal)
    (hderive : versionDirectory = none →
      a.repository.deriveMetadata = a'.repository.deriveMetadata)
    (hfetch : a.FetchAlike R settings a')
    (hlist : versionDirectory = none → a.ListAlike R settings a') :
    Matches R (lookUp settings a ga versionDirectory) (lookUp settings a' ga versionDirectory)
      Eq := by
  unfold lookUp
  extract_lets rest publish rest' publish'
  have hrest (found : Option Metadata) : Matches R (rest found) (rest' found) Eq := by
    dsimp only [rest, rest']
    cases versionDirectory with
    | some directory =>
        simp only [Option.isSome_some, Bool.or_true, if_true]
        exact Matches.pure rfl
    | none =>
        rw [← hderive rfl]
        split
        · exact Matches.pure rfl
        · refine (derive_matches (hlist rfl)).bind_eq fun outcome => ?_
          split <;> exact Matches.pure rfl
  have hpublish (installed : Option Metadata) :
      Matches R (publish installed) (publish' installed) Eq := by
    cases installed with
    | some m => exact hrest (some m)
    | none => exact (fetchDocument_matches hfetch _).bind_eq hrest
  rw [← hlocal]
  split
  · exact (fetchDocument_matches hfetch _).bind_eq hpublish
  · exact hpublish none

end Resolution

end Depot
