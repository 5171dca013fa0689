import Depot.Coordinates

/-!
Where files lie in a repository. Group, artifact id and version name nested directories; the dots
of a group separate directories as well. File names repeat artifact id and version.
-/

namespace Depot.Layout

open Text

def metadataName : String := "maven-metadata.xml"

def localMetadataName : String := "maven-metadata-local.xml"

/-- For instance org/springframework/boot/spring-boot. -/
def directory (ga : GroupArtifact) : String :=
  String.ofList (replaceChar '.' '/' ga.group.toList) ++ "/" ++ ga.artifact

/-- Metadata of all versions, or of the builds of one snapshot in its version directory. -/
def metadataPath (ga : GroupArtifact) (versionDirectory : Option String) (name : String) : String :=
  match versionDirectory with
  | none => directory ga ++ "/" ++ name
  | some version => directory ga ++ "/" ++ version ++ "/" ++ name

def classifierPart : Option String → String
  | none => ""
  | some classifier => "-" ++ classifier

/-- The version in the name of a snapshot's file is that of a build, or of the snapshot itself. -/
def fileName (a : Artifact) (fileVersion : String) : String :=
  a.coordinates.artifact ++ "-" ++ fileVersion ++ classifierPart a.classifier ++ "." ++ a.extension

def path (a : Artifact) (fileVersion : String) : String :=
  directory a.coordinates.groupArtifact ++ "/" ++ a.coordinates.version.directory ++ "/" ++
    fileName a fileVersion

end Depot.Layout
