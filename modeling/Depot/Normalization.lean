import Depot.Cache.Schedule
import Depot.Configuration
import Depot.Session

/-!
Whether repositories can be used: their URI has to be well-formed and allowed, and remote ones have
to answer. The verdict on a URI is reached once; descriptions of the same repository keep their own
id and flags.
-/

namespace Depot

open Http

namespace Normalization

def key (r : Repository) : Key := ⟨r.uri, r.credentials.isSome⟩

/-- The verdict on a repository in canonical form. Any response means that it can be reached. -/
def verdict (c : Configuration) (lookup : String → Option String) (r : Repository) :
    Conversation Bool :=
  match Url.parse r.uri with
  | .error _ => .done false
  | .ok u =>
      if u.scheme == "file" then .done r.localPath?.isSome
      else if u.scheme == "http" || u.scheme == "https" then
        if (c.hostPolicy.check u).isSome then .done false
        else if r.knownToExist then .done true
        else
          (Conversation.negotiate c.settings lookup (Request.head r.uri) r.credentials).map
            fun outcome => outcome.toOption.isSome
      else .done false

/-- The canonical form, if the repository can be used. -/
def answer (r : Repository) (usable : Bool) : Option Repository := if usable then some r else none

def normalize (c : Configuration) (r : Repository) : Run (Option Repository) := do
  let r := r.canonical
  match (← get).normalized.get? (key r) with
  | some usable => return answer r usable
  | none =>
      let usable ← Session.hold (verdict c (← get).lookup r)
      modify fun s => { s with normalized := s.normalized.put (key r) usable }
      return answer r usable

/-- How often a verdict has to wait at most: attempts and pauses, with credentials and without. -/
def waits (c : Configuration) : Nat := 4 * c.settings.retry.limit

/-- Normalizes all repositories at the same time. -/
def normalizeAll (c : Configuration) (rs : List Repository) : Run (List (Option Repository)) := do
  let rs := rs.map Repository.canonical
  let lookup := (← get).lookup
  let calls : List (Cache.Call Key Bool) := rs.map fun r =>
    { key := key r, computation := verdict c lookup r }
  let t ← Cache.compute (waits c) (← get).normalized calls
  modify fun s => { s with normalized := t.cache }
  return (rs.zip t.callers).map fun (r, caller) => caller.value?.bind (answer r)

end Normalization

end Depot
