import Depot.Download.Failure
import Depot.Normalization
import Depot.Resolution
import Depot.Validation

/-!
Finding artifacts in an ordered list of repositories. Repositories are tried one at a time, and the
first one with a valid copy wins.
-/

namespace Depot

open Http Repository

namespace Download

structure Resolved where
  coordinates : Coordinates
  /-- Where the artifact was found. -/
  repository : Repository
  content : Bytes
  /-- With the build of a snapshot in the place of its version. -/
  fileName : String
deriving DecidableEq, Repr

def unusable : String := "repository is unreachable or not allowed"

/-- The repositories to ask, and those that can not be used, with the reason. -/
structure Candidates where
  usable : List Access := []
  dropped : List Attempt := []

/-- The local repository comes first, then the one that the caller prefers. -/
def sources (c : Configuration) (preferred : Option Repository) (rs : List Repository) :
    List Repository :=
  c.localRepository.toList ++ preferred.toList ++ rs

/-- Takes up one more repository, unless one with the same URI is there already. -/
def addCandidate (c : Configuration) (found : Candidates) (r : Repository) : Run Candidates := do
  match ← Normalization.normalize c r with
  | none =>
      return { found with dropped := found.dropped ++ [⟨Text.trim r.uri, unusable⟩] }
  | some r =>
      if found.usable.any fun a => a.uri == r.uri then return found
      else return { found with usable := found.usable ++ [r.access] }

def candidates (c : Configuration) (preferred : Option Repository) (rs : List Repository) :
    Run Candidates :=
  (sources c preferred rs).foldlM (addCandidate c) {}

/-- The version in the artifact's file name. For a floating snapshot that is the newest build that
any repository knows of. -/
def fileVersion (c : Configuration) (artifact : Artifact) (usable : List Access) : Run String := do
  let version := artifact.coordinates.version
  match version with
  | .snapshot _ =>
      let asked := usable.filter fun a => a.repository.snapshotsEnabled
      let merged ← Resolution.resolveMerged c.settings asked artifact.coordinates.groupArtifact
        (some version.directory)
      let newest := merged.bind fun m =>
        m.fileVersion? version artifact.extension artifact.classifier
      return newest.getD version.text
  | _ => return version.text

/-- A file with the version in its name under which it was found. Local repositories hold snapshots
that were installed, not downloaded, under the name of the snapshot itself. -/
def fetchVersion (c : Configuration) (a : Access) (artifact : Artifact) (fileVersion : String) :
    Run (Except FetchError (Option (Digest.Blob × String))) := do
  let version := artifact.coordinates.version
  match ← a.fetch c.settings (Layout.path artifact fileVersion) with
  | .error e => return .error e
  | .ok (some blob) => return .ok (some (blob, fileVersion))
  | .ok none =>
      if a.repository.isLocal && version.isSnapshot && fileVersion != version.directory then
        match ← a.fetch c.settings (Layout.path artifact version.directory) with
        | .error e => return .error e
        | .ok found => return .ok (found.map fun blob => (blob, version.directory))
      else return .ok none

/-- A valid copy from one repository, or why there is none. -/
def tryRepository (c : Configuration) (a : Access) (artifact : Artifact) (fileVersion : String) :
    Run (Except String Resolved) := do
  match ← fetchVersion c a artifact fileVersion with
  | .error e => return .error e.message
  | .ok none => return .error "not found"
  | .ok (some (blob, fileVersion)) =>
      match ← Validation.validate c.settings a artifact fileVersion blob with
      | .error e => return .error e.message
      | .ok () =>
          return .ok {
            coordinates := artifact.coordinates, repository := a.repository, content := blob.data,
            fileName := Layout.fileName artifact fileVersion }

/-- Why a repository is not asked for a version. -/
def disabled (version : Version) : String :=
  if version.isSnapshot then "snapshots are disabled" else "releases are disabled"

/-- Tries repositories until one has a valid copy; otherwise tells of each why it does not help. -/
def tryAll (c : Configuration) (artifact : Artifact) (fileVersion : String) :
    List Access → Run (Except (List Attempt) Resolved)
  | [] => return .error []
  | a :: rest => do
      let version := artifact.coordinates.version
      let outcome ← if a.repository.accepts version then tryRepository c a artifact fileVersion
        else pure (.error (disabled version))
      match outcome with
      | .ok resolved => return .ok resolved
      | .error reason =>
          match ← tryAll c artifact fileVersion rest with
          | .ok resolved => return .ok resolved
          | .error attempts => return .error (⟨a.uri, reason⟩ :: attempts)

/-- Downloads a file. Repositories that can not be used are told of only if there are no others. -/
def downloadArtifact (c : Configuration) (artifact : Artifact) (preferred : Option Repository)
    (rs : List Repository) : Run (Except Failure Resolved) := do
  let found ← candidates c preferred rs
  let version ← fileVersion c artifact found.usable
  let target := Layout.fileName artifact version
  if found.usable.isEmpty then return .error ⟨target, found.dropped⟩
  else
    match ← tryAll c artifact version found.usable with
    | .ok resolved => return .ok resolved
    | .error attempts => return .error ⟨target, attempts⟩

/-- Downloads the description of a project, which may have moved. -/
def download (c : Configuration) (coordinates : Coordinates) (relocation : Option Relocation)
    (preferred : Option Repository) (rs : List Repository) : Run (Except Failure Resolved) :=
  let coordinates := (relocation.map fun r => r.apply coordinates).getD coordinates
  downloadArtifact c (.pom coordinates) preferred rs

/-- What all repositories tell about the versions of an artifact. -/
def downloadMetadata (c : Configuration) (ga : GroupArtifact) (preferred : Option Repository)
    (rs : List Repository) : Run (Option Metadata) := do
  let found ← candidates c preferred rs
  Resolution.resolveMerged c.settings found.usable ga none

end Download

end Depot
