import Depot.Credentials
import Depot.Http.Failure
import Depot.Http.Request
import Depot.Http.Status

/-!
Conversations with servers: a value in the end, and before it attempts to get a response and pauses.
What a conversation does next depends on the outcomes of its attempts alone, so the same
conversation can be held alone or among others.
-/

namespace Depot.Http

abbrev Outcome := Except Failure Response

inductive Conversation (α : Type) where
  | done (value : α)
  /-- One attempt, bounded in time, and what follows its outcome. -/
  | attempt (sent : Sent) (limits : Limits) (next : Except Cause Response → Conversation α)
  | pause (ms : Nat) (next : Conversation α)

namespace Conversation

def bind : Conversation α → (α → Conversation β) → Conversation β
  | done a, f => f a
  | attempt sent limits next, f => attempt sent limits fun outcome => (next outcome).bind f
  | pause ms next, f => pause ms (next.bind f)

def map (f : α → β) (c : Conversation α) : Conversation β := c.bind fun a => done (f a)

/-- What a failed attempt with this number amounts to if no other one follows. -/
def givenUp (uri : String) (made : Nat) (cause : Cause) : Failure :=
  if cause.isTransient then .exhausted uri made cause else .single uri cause

/-- Attempts until one gives a response or fails for good. The number is that of the attempts that
may still follow the next one. -/
def attempts (settings : Settings) (uri : String) (sent : Sent) : Nat → Conversation Outcome
  | 0 =>
      attempt sent settings.limits fun
        | .ok response => done (.ok response)
        | .error cause => done (.error (givenUp uri settings.retry.limit cause))
  | left + 1 =>
      attempt sent settings.limits fun
        | .ok response => done (.ok response)
        | .error cause =>
            let made := settings.retry.limit - (left + 1)
            match settings.retry.decide made cause.failureClass with
            | .retryAfter ms => pause ms (attempts settings uri sent left)
            | .giveUp => done (.error (givenUp uri made cause))

/-- Sends a request, again if no response arrives. Responses of any status are responses. -/
def send (settings : Settings) (request : Request) : Conversation Outcome :=
  match request.prepare settings with
  | .error reason => done (.error (.single request.uri (.invalid reason)))
  | .ok sent => attempts settings request.uri sent (settings.retry.limit - 1)

/-- What follows an answer to credentials: a server that denies them is asked again without. -/
def askAgain (settings : Settings) (request : Request) : Outcome → Conversation Outcome
  | .ok response =>
      if Status.isDenied response.status then send settings request else done (.ok response)
  | .error failure => done (.error failure)

/-- Sends a request with credentials, if there are any that can be used and sent. A server that
denies them is asked once more without. -/
def negotiate (settings : Settings) (lookup : String → Option String) (request : Request)
    (credentials : Option Credentials) : Conversation Outcome :=
  match credentials.bind (Credentials.resolve? lookup) with
  | none => send settings request
  | some c =>
      match c.authorization? with
      | none => send settings request
      | some authorization =>
          (send settings (request.withHeader authorization)).bind (askAgain settings request)

end Conversation

end Depot.Http
