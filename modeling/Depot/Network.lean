import Depot.Http.Failure
import Depot.Http.Request

/-!
The network as seen from here: whether a server can be reached and what it answers. Both may depend
on everything that reached the network before.
-/

namespace Depot

open Http

inductive Connection
  | works
  /-- Neither succeeds nor fails, though the server's address has answered. -/
  | hangs
  /-- Fails at once. -/
  | fails (fault : ConnectFault)
  /-- Fails at once, as if too much time had passed. -/
  | timesOut
deriving DecidableEq, Repr, Inhabited

/-- How a server is reached. -/
structure Reach where
  /-- What comes of it, once the server's address has answered. -/
  connection : Connection
  /-- Milliseconds before the address answers; none if it never does. -/
  latency : Option Nat := some 0
deriving DecidableEq, Repr, Inhabited

abbrev Reach.works : Reach := { connection := .works }

abbrev Reach.fails (fault : ConnectFault) : Reach := { connection := .fails fault }

/-- What is wrong with an answer. -/
inductive Answer.Fault
  | hang
  | drop
  /-- Only half of the body arrives. -/
  | truncate
  | reset
  | abort
  | brokenPipe
  | timeout
  | other
  | garbage
deriving DecidableEq, Repr

structure Answer where
  status : Nat := 200
  headers : Headers := []
  body : Bytes := []
  /-- Milliseconds before anything arrives. -/
  delay : Nat := 0
  fault : Option Answer.Fault := none
deriving DecidableEq, Repr, Inhabited

namespace Answer

/-- Some responses have no body whatever their server says. -/
def bodyFor (a : Answer) (method : String) : Bytes :=
  if method == "HEAD" || a.status == 204 || a.status == 304 then [] else a.body

/-- What arrives in the end. -/
def outcome (a : Answer) (method : String) : Except Cause Response :=
  let body := a.bodyFor method
  let response : Except Cause Response := .ok ⟨a.status, a.headers, body⟩
  match a.fault with
  | none => response
  | some .hang | some .timeout => .error .timeout
  | some .drop => .error (.noResponse .closed)
  | some .truncate => if body.isEmpty then response else .error (.noResponse .bodyIncomplete)
  | some .reset => .error (.noResponse .reset)
  | some .abort => .error (.noResponse .aborted)
  | some .brokenPipe => .error (.noResponse .brokenPipe)
  | some .other => .error (.protocol .unreadable)
  | some .garbage => .error (.protocol .notHttp)

/-- How long an attempt takes that is given up after `limit`, and its outcome. -/
def within (a : Answer) (limit : Nat) (method : String) : Nat × Except Cause Response :=
  if a.fault = some .hang ∨ limit ≤ a.delay then (limit, .error .timeout)
  else (a.delay, a.outcome method)

end Answer

/-- What reached the network. -/
inductive Contact
  | request (sent : Sent)
  /-- A connection that did not work. -/
  | noConnection (server : String) (connection : Connection)
deriving DecidableEq, Repr

structure Network where
  connect : List Contact → String → Reach
  answer : List Contact → Sent → Answer

namespace Network

/-- A network that no server can be reached in. -/
def empty : Network where
  connect _ _ := .fails .unknownHost
  answer _ _ := {}

/-- What comes of an attempt: how long it takes, its outcome, and what it leaves in the record. An
address that does not answer in time is given up; all else is bounded together with the answer. -/
def attempt (n : Network) (before : List Contact) (sent : Sent) (limits : Limits) :
    (Nat × Except Cause Response) × Contact :=
  let reach := n.connect before sent.server
  let bound := min limits.connecting limits.exchange
  match reach.latency.filter (· ≤ bound) with
  | none => ((bound, .error .timeout), .noConnection sent.server .hangs)
  | some ms =>
      match reach.connection with
      | .works =>
          let (rest, outcome) := (n.answer before sent).within (limits.exchange - ms) sent.method
          ((ms + rest, outcome), .request sent)
      | .hangs => ((limits.exchange, .error .timeout), .noConnection sent.server .hangs)
      | .timesOut => ((ms, .error .timeout), .noConnection sent.server .timesOut)
      | .fails fault =>
          ((ms, .error (.connect fault)), .noConnection sent.server (.fails fault))

/-- However long the answer may take, an address is not waited for longer than connecting may. -/
theorem attempt_of_late {n : Network} {before : List Contact} {sent : Sent} {limits : Limits}
    (h : ∀ ms, (n.connect before sent.server).latency = some ms → limits.connecting < ms) :
    n.attempt before sent limits =
      ((min limits.connecting limits.exchange, .error .timeout),
        .noConnection sent.server .hangs) := by
  have hnone : (n.connect before sent.server).latency.filter
      (· ≤ min limits.connecting limits.exchange) = none := by
    refine Option.filter_eq_none_iff.2 fun ms hms => ?_
    have hlate := h ms hms
    simp only [decide_eq_true_eq]
    omega
  simp only [attempt, hnone]

/-- Whether servers answer the same request the same way every time. -/
def IsSteady (n : Network) : Prop :=
  (∀ before after server, n.connect before server = n.connect after server) ∧
    ∀ before after sent, n.answer before sent = n.answer after sent

end Network

end Depot
