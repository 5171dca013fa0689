import Depot.Credentials
import Depot.Text.Blank
import Depot.Url
import Depot.Version

/-!
Where and how to reach a repository. Repositories are directories of the file system, told by the
beginning of their URI, or remote.
-/

namespace Depot

open Text

structure Repository where
  id : String
  uri : String
  username : Option String := none
  password : Option String := none
  snapshotsEnabled : Bool := true
  releasesEnabled : Bool := true
  /-- Taken to be reachable without being asked. -/
  knownToExist : Bool := false
  /-- Whether version directories are listed where there is no metadata. -/
  deriveMetadata : Bool := false
deriving DecidableEq, Repr, Inhabited

namespace Repository

/-- Both parts are needed. -/
def credentials (r : Repository) : Option Credentials := do
  let username ← r.username
  let password ← r.password
  return ⟨username, password⟩

def withCredentials (r : Repository) (username password : String) : Repository :=
  { r with username := some username, password := some password }

def isLocal (r : Repository) : Bool :=
  (afterLead? "file:".toList (trimStart r.uri).toList).isSome

/-- The URI without white space around it. Those of remote repositories lose slashes at the end as
well, those of the file system keep them. -/
def canonicalUri (r : Repository) : String :=
  let uri := trim r.uri
  if r.isLocal then uri else String.ofList (dropEndWhile (· == '/') uri.toList)

def canonical (r : Repository) : Repository := { r with uri := r.canonicalUri }

/-- The directory of a repository of the file system. -/
def localPath? (r : Repository) : Option Bytes :=
  if r.isLocal then (Url.parse (trim r.uri)).toOption.bind Url.filePath? else none

def accepts (r : Repository) (version : Version) : Bool :=
  if version.isSnapshot then r.snapshotsEnabled else r.releasesEnabled

/-- One flag is for releases, the other one for snapshots and their builds. -/
theorem accepts_iff {r : Repository} {version : Version} :
    r.accepts version = true ↔
      (∃ text, version = .release text) ∧ r.releasesEnabled = true ∨
      ((∃ base, version = .snapshot base) ∨
        ∃ base timestamp number, version = .build base timestamp number) ∧
          r.snapshotsEnabled = true := by
  cases version <;> simp [accepts, Version.isSnapshot]

end Repository

end Depot
