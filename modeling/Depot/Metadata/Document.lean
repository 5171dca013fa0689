import Depot.Markup.Field
import Depot.Metadata

/-!
The document in which repositories publish metadata, maven-metadata.xml.
-/

namespace Depot.Metadata.Document

open Markup

structure Snapshot where
  timestamp : Option String := none
  buildNumber : Option UInt32 := none
  localCopy : Option Bool := none

structure File where
  classifier : Option String := none
  extension : Option String := none
  value : Option String := none
  updated : Option String := none

structure Versioning where
  latest : Option String := none
  release : Option String := none
  versions : Option (List String) := none
  lastUpdated : Option String := none
  snapshot : Option Snapshot := none
  files : Option (List SnapshotFile) := none

structure Root where
  group : Option String := none
  artifact : Option String := none
  version : Option String := none
  versioning : Option Versioning := none

def snapshot : Reader Snapshot :=
  .record "Snapshot"
    [("timestamp", .single .text (·.timestamp) fun r a => { r with timestamp := some a }),
     ("buildNumber", .single .natural (·.buildNumber) fun r a => { r with buildNumber := some a }),
     ("localCopy", .single .flag (·.localCopy) fun r a => { r with localCopy := some a })]
    {} .ok

/-- Extension and value have to be there. -/
def File.close (f : File) : Except Fault SnapshotFile :=
  match f.extension, f.value with
  | none, _ => .error (.missing "extension")
  | some _, none => .error (.missing "value")
  | some extension, some value => .ok ⟨f.classifier, extension, value, f.updated⟩

def file : Reader SnapshotFile :=
  .record "SnapshotVersion"
    [("classifier", .single .text (·.classifier) fun r a => { r with classifier := some a }),
     ("extension", .single .text (·.extension) fun r a => { r with extension := some a }),
     ("value", .single .text (·.value) fun r a => { r with value := some a }),
     ("updated", .single .text (·.updated) fun r a => { r with updated := some a })]
    ({} : File) File.close

/-- An element that holds nothing but a list. -/
def listOf (kind item : String) (read : Reader α) : Reader (List α) :=
  .record kind [(item, .items read id fun _ as => some as)] none fun as => .ok (as.getD [])

def versioning : Reader Versioning :=
  .record "Versioning"
    [("latest", .single .text (·.latest) fun r a => { r with latest := some a }),
     ("release", .single .text (·.release) fun r a => { r with release := some a }),
     ("versions", .single (listOf "Versions" "version" .text) (·.versions)
        fun r a => { r with versions := some a }),
     ("lastUpdated", .single .text (·.lastUpdated) fun r a => { r with lastUpdated := some a }),
     ("snapshot", .single snapshot (·.snapshot) fun r a => { r with snapshot := some a }),
     ("snapshotVersions", .single (listOf "SnapshotVersions" "snapshotVersion" file) (·.files)
        fun r a => { r with files := some a })]
    {} .ok

def root : Reader Root :=
  .record "Metadata"
    [("groupId", .single .text (·.group) fun r a => { r with group := some a }),
     ("artifactId", .single .text (·.artifact) fun r a => { r with artifact := some a }),
     ("version", .single .text (·.version) fun r a => { r with version := some a }),
     ("versioning", .single versioning (·.versioning) fun r a => { r with versioning := some a })]
    {} .ok

/-- Absent ids are empty, and a snapshot without a timestamp says nothing. -/
def Root.toMetadata (r : Root) : Metadata :=
  let v := r.versioning.getD {}
  { group := r.group.getD ""
    artifact := r.artifact.getD ""
    version := r.version
    latest := v.latest
    release := v.release
    versions := distinct (v.versions.getD [])
    snapshot := v.snapshot.bind fun s => s.timestamp.map fun t => ⟨t, s.buildNumber⟩
    snapshotFiles := v.files.getD []
    lastUpdated := v.lastUpdated }

end Depot.Metadata.Document

namespace Depot.Metadata

/-- Reads a document, which may be in any of the encodings of markup. -/
def ofBytes (bytes : Bytes) : Except Markup.Fault Metadata :=
  (Markup.Reader.document Document.root bytes).map Document.Root.toMetadata

end Depot.Metadata
