import Depot.Json.Writing
import Depot.Metadata

/-!
Metadata in the form in which the service answers with it.
-/

namespace Depot.Metadata

open Json

def toOutput (m : Metadata) : Output :=
  let text := Output.option .string
  let snapshot (s : SnapshotBuild) : Output :=
    .object [("timestamp", .string s.timestamp),
      ("build_number", .option (fun n : UInt32 => .natural n.toNat) s.number)]
  let file (f : SnapshotFile) : Output :=
    .object [("classifier", text f.classifier), ("extension", .string f.extension),
      ("value", .string f.value), ("updated", text f.updated)]
  .object [("group_id", .string m.group), ("artifact_id", .string m.artifact),
    ("version", text m.version),
    ("versioning", .object [("latest", text m.latest), ("release", text m.release),
      ("versions", .array (m.versions.map .string)), ("snapshot", .option snapshot m.snapshot),
      ("snapshot_versions", .array (m.snapshotFiles.map file)),
      ("last_updated", text m.lastUpdated)])]

end Depot.Metadata
