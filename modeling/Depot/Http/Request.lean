import Depot.Http.Header
import Depot.Http.Retry
import Depot.Http.Target
import Depot.Text.Utf8

/-!
Requests, how they are sent, and what comes back.
-/

namespace Depot.Http

/-- Bounds on one attempt, in milliseconds. -/
structure Limits where
  /-- Until the server's address has answered. -/
  connecting : Nat
  /-- Until the whole answer has arrived. -/
  exchange : Nat
deriving DecidableEq, Repr, Inhabited

/-- How requests are sent. -/
structure Settings where
  /-- Bounds connecting to an address, in milliseconds. -/
  connectTimeout : Nat := 10000
  /-- Bounds one attempt, with its answer, in milliseconds. -/
  readTimeout : Nat := 30000
  retry : RetryPolicy := ⟨2, 500⟩
  userAgent : String := "curl/7.68.0"
deriving DecidableEq, Repr, Inhabited

def Settings.limits (s : Settings) : Limits := ⟨s.connectTimeout, s.readTimeout⟩

structure Request where
  method : String
  uri : String
  headers : Headers := []
deriving DecidableEq, Repr, Inhabited

namespace Request

def get (uri : String) : Request := { method := "GET", uri }

def head (uri : String) : Request := { method := "HEAD", uri }

/-- Replaces headers of the same name. -/
def withHeader (r : Request) (h : Header) : Request := { r with headers := r.headers.set h }

end Request

/-- A request in the form in which it reaches a server. -/
structure Sent where
  method : String
  scheme : String
  server : String
  path : String
  headers : Headers
deriving DecidableEq, Repr, Inhabited

/-- A request is valid if its URI and all its headers are. -/
def Request.prepare (r : Request) (settings : Settings) : Except Invalid Sent :=
  match Target.parse r.uri with
  | .error e => .error e
  | .ok t =>
      let agent : Header := ⟨"user-agent", Text.Utf8.encode settings.userAgent⟩
      if Header.isValue agent.value then
        .ok { method := r.method, scheme := t.scheme, server := t.server, path := t.requestPath,
              headers := agent :: r.headers }
      else .error .headerValue

structure Response where
  status : Nat
  headers : Headers
  body : Bytes
deriving DecidableEq, Repr, Inhabited

end Depot.Http
