import Depot.Digest.Checksum
import Depot.Repository
import Depot.Repository.Index
import Depot.Session

/-!
Reading from repositories, wherever their files are.
-/

namespace Depot.Repository

open Http Text

/-- Where the files of a repository are. -/
inductive Place
  | directory (root : Files.Path)
  /-- Below a URI that ends with a slash. -/
  | remote (base : String)
deriving DecidableEq, Repr

structure Access where
  repository : Repository
  place : Place
deriving DecidableEq, Repr

/-- A repository without a usable directory is taken for a remote one. -/
def access (r : Repository) : Access :=
  match r.localPath? with
  | some root => ⟨r, .directory root⟩
  | none =>
      let base := if r.uri.toList.getLast? == some '/' then r.uri else r.uri ++ "/"
      ⟨r, .remote base⟩

inductive FetchError
  | status (code : Nat)
  | transport (failure : Failure)
  | files (path : Files.Path) (error : Files.Error)
deriving DecidableEq, Repr

def FetchError.message : FetchError → String
  | status code => "HTTP status " ++ Status.text code
  | transport failure => failure.message
  | files path error => "failed to read " ++ Quoted.writeBytes path ++ ": " ++ error.message

namespace Access

open Session

def uri (a : Access) : String := a.repository.uri

/-- What a remote repository's answer to a request for a file means. -/
def received : Outcome → Except FetchError (Option Digest.Blob)
  | .error failure => .error (.transport failure)
  | .ok response =>
      if Status.isSuccess response.status then
        .ok (some ⟨response.body, Digest.Checksums.announced response.headers⟩)
      else if Status.isMissing response.status then .ok none
      else .error (.status response.status)

/-- A file is what a response of success holds, with the checksums that its headers announce. -/
theorem received_eq_some_iff {outcome : Outcome} {blob : Digest.Blob} :
    received outcome = .ok (some blob) ↔
      ∃ response, outcome = .ok response ∧ Status.isSuccess response.status = true ∧
        blob = ⟨response.body, Digest.Checksums.announced response.headers⟩ := by
  constructor
  · intro h
    unfold received at h
    split at h
    · cases h
    · rename_i response
      split at h
      · rename_i hsuccess
        cases h
        exact ⟨response, rfl, hsuccess, rfl⟩
      · split at h <;> cases h
  · rintro ⟨response, rfl, hsuccess, rfl⟩
    exact if_pos hsuccess

/-- A file of the repository; nothing if there is no such file. -/
def fetch (settings : Settings) (a : Access) (path : String) :
    Run (Except FetchError (Option Digest.Blob)) := do
  match a.place with
  | .directory root =>
      let full := Files.join root (Utf8.encode path)
      match ← readFile full with
      | .ok data => return .ok (some { data })
      | .error .notFound => return .ok none
      | .error e => return .error (.files full e)
  | .remote base =>
      let lookup := (← get).lookup
      let request := Request.get (base ++ path)
      let outcome ← hold (.negotiate settings lookup request a.repository.credentials)
      return received outcome

/-- The names of the directories in a directory; none if there is no such directory. -/
def list (settings : Settings) (a : Access) (path : String) :
    Run (Except FetchError (List String)) := do
  match a.place with
  | .directory root =>
      let full := Files.join root (Utf8.encode path)
      match ← listDirectories full with
      | .ok names => return .ok (names.filterMap Utf8.decode?)
      | .error .notFound => return .ok []
      | .error e => return .error (.files full e)
  | .remote _ =>
      let index := String.ofList (dropEndWhile (· == '/') path.toList) ++ "/"
      match ← fetch settings a index with
      | .error e => return .error e
      | .ok none => return .ok []
      | .ok (some blob) => return .ok (Index.names (Utf8.repair blob.data))

end Access

end Depot.Repository
