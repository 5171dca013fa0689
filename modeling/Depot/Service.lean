import Depot.Download
import Depot.Layout.Reading
import Depot.Metadata.Answer

/-!
The service: files of repositories by their path, and the metadata of artifacts.
-/

namespace Depot.Service

open Http Text

structure Response where
  status : Nat
  contentType : String
  /-- The id of the repository that a file comes from. -/
  resolvedRepository : Option Bytes := none
  body : Bytes
deriving DecidableEq, Repr

def plain (status : Nat) (message : String) : Response where
  status
  contentType := "text/plain; charset=utf-8"
  body := Utf8.encode message

/-- A file and where it comes from. An id that no header can hold is an error of the service. -/
def file (resolved : Download.Resolved) : Response :=
  let id := Utf8.encode resolved.repository.id
  if Header.isValue id then
    { status := 200, contentType := "application/octet-stream", resolvedRepository := some id,
      body := resolved.content }
  else plain 500 Invalid.headerValue.message

def getFile (c : Configuration) (path : String) : Run Response := do
  match Layout.readPath path with
  | .error e => return plain 400 e.message
  | .ok artifact =>
      match ← Download.downloadArtifact c artifact none c.repositories with
      | .ok resolved => return file resolved
      | .error failure => return plain 404 failure.message

def getMetadata (c : Configuration) (ga : GroupArtifact) : Run Response := do
  match ← Download.downloadMetadata c ga none c.repositories with
  | some m =>
      return { status := 200, contentType := "application/json",
               body := Utf8.encode m.toOutput.write }
  | none => return plain 404 ("no metadata for " ++ ga.text)

end Depot.Service
