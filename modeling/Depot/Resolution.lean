import Depot.Layout
import Depot.Metadata.Document
import Depot.Repository.Access

/-!
Metadata of artifacts from repositories. Metadata that is missing, out of reach or broken counts as
absent. What a repository's metadata is, is found out once.
-/

namespace Depot.Resolution

open Http Repository

/-- A metadata document; nothing if there is none that can be read. -/
def fetchDocument (settings : Settings) (a : Access) (path : String) : Run (Option Metadata) := do
  match ← a.fetch settings path with
  | .ok (some blob) =>
      if blob.data.isEmpty then return none else return (Metadata.ofBytes blob.data).toOption
  | _ => return none

def fetchPublished (settings : Settings) (a : Access) (ga : GroupArtifact)
    (versionDirectory : Option String) : Run (Option Metadata) :=
  fetchDocument settings a (Layout.metadataPath ga versionDirectory Layout.metadataName)

/-- Metadata that lists the version directories of an artifact. -/
def derive (settings : Settings) (a : Access) (ga : GroupArtifact) :
    Run (Except FetchError Metadata) := do
  return (← a.list settings (Layout.directory ga)).map (Metadata.ofVersions ga)

/-- What was installed in a local repository counts before what was published. A listing says
nothing about builds of snapshots, and nothing at all if it is empty. -/
def lookUp (settings : Settings) (a : Access) (ga : GroupArtifact)
    (versionDirectory : Option String) : Run (Option Metadata) := do
  let installed ← if a.repository.isLocal then
      fetchDocument settings a (Layout.metadataPath ga versionDirectory Layout.localMetadataName)
    else pure none
  let found ← match installed with
    | some m => pure (some m)
    | none => fetchPublished settings a ga versionDirectory
  if found.isSome || !a.repository.deriveMetadata || versionDirectory.isSome then return found
  else
    match ← derive settings a ga with
    | .ok m => return if m.versions.isEmpty then none else some m
    | .error _ => return none

def key (a : Access) (ga : GroupArtifact) (versionDirectory : Option String) : Metadata.Key :=
  ⟨a.uri, ga, versionDirectory⟩

/-- A repository's metadata for an artifact. -/
def resolve (settings : Settings) (a : Access) (ga : GroupArtifact)
    (versionDirectory : Option String) : Run (Option Metadata) := do
  let key := key a ga versionDirectory
  match (← get).metadata.get? key with
  | some m => return m
  | none =>
      let m ← lookUp settings a ga versionDirectory
      modify fun s => { s with metadata := s.metadata.put key m }
      return m

/-- Merges another document into what was found so far. -/
def combine : Option Metadata → Option Metadata → Option Metadata
  | some a, some b => some (a.merge b)
  | none, b => b
  | a, none => a

/-- The metadata of all repositories, merged in their order. -/
def resolveMerged (settings : Settings) (as : List Access) (ga : GroupArtifact)
    (versionDirectory : Option String) : Run (Option Metadata) :=
  as.foldlM (fun merged a => return combine merged (← resolve settings a ga versionDirectory)) none

end Depot.Resolution
