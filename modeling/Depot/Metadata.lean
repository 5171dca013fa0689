import Depot.Coordinates

/-!
What a repository tells about an artifact: its versions and, for a snapshot, its builds. Metadata of
several repositories is merged in order of preference.
-/

namespace Depot

open Text

/-- The newest build of a snapshot. -/
structure SnapshotBuild where
  /-- For instance 20220201.001946. -/
  timestamp : String
  number : Option UInt32
deriving DecidableEq, Repr, Inhabited

/-- The version in the name of one file of a snapshot. -/
structure SnapshotFile where
  classifier : Option String
  extension : String
  value : String
  updated : Option String
deriving DecidableEq, Repr, Inhabited

structure Metadata where
  group : String
  artifact : String
  version : Option String := none
  latest : Option String := none
  release : Option String := none
  versions : List String := []
  snapshot : Option SnapshotBuild := none
  snapshotFiles : List SnapshotFile := []
  lastUpdated : Option String := none
deriving DecidableEq, Repr, Inhabited

namespace Metadata

/-- Each version at its first occurrence. -/
def distinct (versions : List String) : List String := versions.eraseDups

/-- What a listing of version directories tells: nothing but the versions. -/
def ofVersions (ga : GroupArtifact) (versions : List String) : Metadata where
  group := ga.group
  artifact := ga.artifact
  versions := distinct versions

/-- The later build; of equally old ones the first. -/
def laterBuild : Option SnapshotBuild → Option SnapshotBuild → Option SnapshotBuild
  | some a, some b => if a.timestamp < b.timestamp then some b else some a
  | some a, none => some a
  | none, b => b

/-- Appends the entries that are not there yet. -/
def addFiles (files more : List SnapshotFile) : List SnapshotFile :=
  more.foldl (fun files f => if files.contains f then files else files ++ [f]) files

/-- The greater text; any text is greater than none. -/
def greater : Option String → Option String → Option String
  | some a, some b => if a < b then some b else some a
  | some a, none => some a
  | none, b => b

/-- Metadata of the same artifact from two repositories. The first one is preferred where the two
can not be combined. -/
def merge (a b : Metadata) : Metadata where
  group := a.group
  artifact := a.artifact
  version := a.version.or b.version
  latest := a.latest.or b.latest
  release := a.release.or b.release
  versions := distinct (a.versions ++ b.versions)
  snapshot := laterBuild a.snapshot b.snapshot
  snapshotFiles := addFiles a.snapshotFiles b.snapshotFiles
  lastUpdated := greater a.lastUpdated b.lastUpdated

/-- The file version of the newest build, if it has a number. -/
def buildVersion? (m : Metadata) (version : Version) : Option String := do
  let build ← m.snapshot
  let number ← build.number
  return version.base ++ "-" ++ build.timestamp ++ "-" ++ Natural.write number.toNat

def notLater : Option String → Option String → Bool
  | none, _ => true
  | some _, none => false
  | some a, some b => !decide (b < a)

/-- Whether the second entry is to be preferred: it is newer, or as new and not less in agreement
with the newest build. -/
def yields (newest : Option String) (a b : SnapshotFile) : Bool :=
  if a.updated = b.updated then some a.value != newest || some b.value == newest
  else notLater a.updated b.updated

def preferred (newest : Option String) : Option SnapshotFile → SnapshotFile → SnapshotFile
  | none, b => b
  | some a, b => if yields newest a b then b else a

/-- The version in the name of a snapshot's file, for instance 2.10.0-20220201.001946-85. Merged
metadata can list several builds of a file. -/
def fileVersion? (m : Metadata) (version : Version) (extension : String)
    (classifier : Option String) : Option String :=
  let newest := m.buildVersion? version
  let listed := m.snapshotFiles.filter fun f =>
    f.extension == extension && f.classifier == classifier
  match listed.foldl (fun best f => some (preferred newest best f)) none with
  | some f => some f.value
  | none => newest

end Metadata

end Depot
