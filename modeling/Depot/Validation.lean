import Depot.Layout
import Depot.Project
import Depot.Repository.Access

/-!
Checks on what was fetched. Content has to be there and to have the announced hashes; a project's
description has to be readable, and in a local repository the binary that it describes has to lie
beside it, because descriptions are often stored without.
-/

namespace Depot.Validation

open Http Repository

inductive Malformed
  | markup (fault : Markup.Fault)
  | nameless
deriving DecidableEq, Repr

def Malformed.message : Malformed → String
  | markup fault => fault.message
  | nameless => "neither artifactId nor parent"

inductive Invalid
  | empty (path : String)
  | checksumMismatch (path : String) (algorithm : Digest.Algorithm)
  | malformed (path : String) (reason : Malformed)
  | missingCompanion (path : String)
  | emptyCompanion (path : String)
  | companionUnreadable (path : String) (error : FetchError)
deriving DecidableEq, Repr

def Invalid.message : Invalid → String
  | empty path => path ++ " is empty"
  | checksumMismatch path algorithm => algorithm.name ++ " checksum mismatch for " ++ path
  | malformed path reason => path ++ " is not a valid POM: " ++ reason.message
  | missingCompanion path => "companion artifact " ++ path ++ " is missing"
  | emptyCompanion path => "companion artifact " ++ path ++ " is empty"
  | companionUnreadable path error =>
      "could not read companion artifact " ++ path ++ ": " ++ error.message

/-- A description names an artifact, or a parent to take the name from. -/
def readProject (data : Bytes) : Except Malformed Project :=
  match Project.ofBytes data with
  | .error fault => .error (.markup fault)
  | .ok p => if p.artifact.isNone && p.parent.isNone then .error .nameless else .ok p

/-- What can be told from the content alone: the project, if the file describes one. -/
def inspect (artifact : Artifact) (path : String) (blob : Digest.Blob) :
    Except Invalid (Option Project) :=
  if blob.data.isEmpty then .error (.empty path)
  else
    match blob.mismatch? with
    | some algorithm => .error (.checksumMismatch path algorithm)
    | none =>
        if !artifact.isPom then .ok none
        else
          match readProject blob.data with
          | .error reason => .error (.malformed path reason)
          | .ok p => .ok (some p)

def checkCompanion (settings : Settings) (a : Access) (path : String) :
    Run (Except Invalid Unit) := do
  match ← a.fetch settings path with
  | .ok (some blob) => return if blob.data.isEmpty then .error (.emptyCompanion path) else .ok ()
  | .ok none => return .error (.missingCompanion path)
  | .error e => return .error (.companionUnreadable path e)

def validate (settings : Settings) (a : Access) (artifact : Artifact) (fileVersion : String)
    (blob : Digest.Blob) : Run (Except Invalid Unit) := do
  match inspect artifact (Layout.path artifact fileVersion) blob with
  | .error e => return .error e
  | .ok none => return .ok ()
  | .ok (some p) =>
      match a.repository.isLocal, Project.companion? p.packaging with
      | true, some extension =>
          let companion : Artifact := ⟨artifact.coordinates, none, extension⟩
          checkCompanion settings a (Layout.path companion fileVersion)
      | _, _ => return .ok ()

end Depot.Validation
