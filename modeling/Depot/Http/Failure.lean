import Depot.Http.Retry
import Depot.Http.Target

/-!
Why there is no response. A failure is transient if the request may have been fine and no response
arrived.
-/

namespace Depot.Http

/-- What can go wrong when a server is to be reached. -/
inductive ConnectFault
  | refused
  | unknownHost
  | reset
  | aborted
  | brokenPipe
  | other
deriving DecidableEq, Repr

def ConnectFault.message : ConnectFault → String
  | refused => "connection refused"
  | unknownHost => "no such host"
  | reset => "connection reset"
  | aborted => "connection aborted"
  | brokenPipe => "broken pipe"
  | other => "other error"

/-- How a connection can end before the response is complete. -/
inductive Disruption
  | closed
  | bodyIncomplete
  | reset
  | aborted
  | brokenPipe
deriving DecidableEq, Repr

def Disruption.message : Disruption → String
  | closed => "connection closed before message completed"
  | bodyIncomplete =>
      "error reading a body from connection: end of file before message length reached"
  | reset => "connection error: connection reset"
  | aborted => "connection error: connection aborted"
  | brokenPipe => "connection error: broken pipe"

/-- What arrives but is no response. -/
inductive Violation
  | unreadable
  | notHttp
deriving DecidableEq, Repr

def Violation.message : Violation → String
  | unreadable => "connection error: other error"
  | notHttp => "invalid HTTP version parsed"

/-- Why one attempt failed. -/
inductive Cause
  | invalid (reason : Invalid)
  | timeout
  | noResponse (d : Disruption)
  | connect (f : ConnectFault)
  | protocol (v : Violation)
deriving DecidableEq, Repr

namespace Cause

def failureClass : Cause → FailureClass
  | timeout | noResponse _ => .transient
  | _ => .terminal

def isTransient (c : Cause) : Bool := c.failureClass == .transient

def message (uri : String) : Cause → String
  | invalid reason => "invalid request for " ++ uri ++ ": " ++ reason.message
  | timeout => "request to " ++ uri ++ " timed out"
  | noResponse d => "connection to " ++ uri ++ " closed without a response: " ++ d.message
  | connect f => "could not connect to " ++ uri ++ ": error trying to connect: " ++ f.message
  | protocol v => "request to " ++ uri ++ " failed: " ++ v.message

end Cause

inductive Failure
  /-- An attempt failed in a way that another one would not mend. -/
  | single (uri : String) (cause : Cause)
  /-- All attempts failed; the cause is that of the last one. -/
  | exhausted (uri : String) (attempts : Nat) (last : Cause)
deriving DecidableEq, Repr

namespace Failure

def message : Failure → String
  | single uri cause => cause.message uri
  | exhausted uri attempts last =>
      "giving up on " ++ uri ++ " after " ++ Text.Natural.write attempts ++ " attempts: " ++
        last.message uri

def isTransient : Failure → Bool
  | single _ cause => cause.isTransient
  | exhausted _ _ _ => false

end Failure

end Depot.Http
