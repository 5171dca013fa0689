import Depot.Version

/-!
What names an artifact: group, artifact id and version, and for a single file its classifier and
extension.
-/

namespace Depot

structure GroupArtifact where
  group : String
  artifact : String
deriving DecidableEq, Repr, Inhabited

def GroupArtifact.text (ga : GroupArtifact) : String := ga.group ++ ":" ++ ga.artifact

structure Coordinates where
  group : String
  artifact : String
  version : Version
deriving DecidableEq, Repr, Inhabited

namespace Coordinates

def groupArtifact (c : Coordinates) : GroupArtifact := ⟨c.group, c.artifact⟩

def text (c : Coordinates) : String := c.group ++ ":" ++ c.artifact ++ ":" ++ c.version.text

end Coordinates

/-- Where an artifact has moved to. Absent parts stay as they were. -/
structure Relocation where
  group : Option String := none
  artifact : Option String := none
  version : Option String := none
deriving DecidableEq, Repr, Inhabited

def Relocation.apply (r : Relocation) (c : Coordinates) : Coordinates where
  group := r.group.getD c.group
  artifact := r.artifact.getD c.artifact
  version := (r.version.map Version.ofString).getD c.version

/-- One file of an artifact. -/
structure Artifact where
  coordinates : Coordinates
  /-- Set for files beside the main one, for instance sources. -/
  classifier : Option String
  /-- Without the dot before it; it may contain further dots. -/
  extension : String
deriving DecidableEq, Repr, Inhabited

namespace Artifact

def pom (coordinates : Coordinates) : Artifact := ⟨coordinates, none, "pom"⟩

def isPom (a : Artifact) : Bool := a.classifier.isNone && a.extension == "pom"

end Artifact

end Depot
