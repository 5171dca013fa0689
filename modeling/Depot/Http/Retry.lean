/-!
When a failed request is sent again. Only transient failures are worth it: those in which no
response arrived although the request may have been fine.
-/

namespace Depot.Http

inductive FailureClass
  | transient
  | terminal
deriving DecidableEq, Repr

inductive Decision
  | retryAfter (ms : Nat)
  | giveUp
deriving DecidableEq, Repr

/-- How often a request is sent at most, and the pause between two attempts. -/
structure RetryPolicy where
  maxAttempts : Nat
  delay : Nat
deriving DecidableEq, Repr

namespace RetryPolicy

/-- At least one attempt is always made. -/
def limit (p : RetryPolicy) : Nat := max 1 p.maxAttempts

/-- What follows when the attempt with this number, counted from one, has failed. -/
def decide (p : RetryPolicy) (attempt : Nat) : FailureClass → Decision
  | .terminal => .giveUp
  | .transient => if attempt < p.limit then .retryAfter p.delay else .giveUp

end RetryPolicy

end Depot.Http
