import Depot.Markup.Field
import Depot.Text.Blank

/-!
The few parts of a project's description that resolution looks at, and which binary a project of
some packaging is published with.
-/

namespace Depot

open Markup Text

structure Project.Parent where
  group : Option String := none
  artifact : Option String := none
  version : Option String := none
deriving DecidableEq, Repr, Inhabited

structure Project where
  group : Option String := none
  artifact : Option String := none
  version : Option String := none
  packaging : Option String := none
  parent : Option Project.Parent := none
deriving DecidableEq, Repr, Inhabited

namespace Project

def Parent.reader : Reader Parent :=
  .record "Parent"
    [("groupId", .single .text (·.group) fun r a => { r with group := some a }),
     ("artifactId", .single .text (·.artifact) fun r a => { r with artifact := some a }),
     ("version", .single .text (·.version) fun r a => { r with version := some a })]
    {} .ok

def reader : Reader Project :=
  .record "Project"
    [("groupId", .single .text (·.group) fun r a => { r with group := some a }),
     ("artifactId", .single .text (·.artifact) fun r a => { r with artifact := some a }),
     ("version", .single .text (·.version) fun r a => { r with version := some a }),
     ("packaging", .single .text (·.packaging) fun r a => { r with packaging := some a }),
     ("parent", .single Parent.reader (·.parent) fun r a => { r with parent := some a })]
    {} .ok

def ofBytes (bytes : Bytes) : Except Fault Project := Reader.document reader bytes

/-- The extension of the binary beside a project of this packaging, if there is one. -/
def companion? (packaging : Option String) : Option String :=
  match packaging.map trim with
  | none | some "" | some "jar" | some "bundle" | some "maven-plugin" => some "jar"
  | some "war" => some "war"
  | some _ => none

end Project

end Depot
