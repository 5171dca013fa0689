/-!
Failed downloads: which repositories were tried, and why each of them did not help.
-/

namespace Depot.Download

structure Attempt where
  repository : String
  reason : String
deriving DecidableEq, Repr, Inhabited

structure Failure where
  /-- The name of the file that was looked for. -/
  target : String
  attempts : List Attempt
deriving DecidableEq, Repr, Inhabited

namespace Failure

def describe : List Attempt → String
  | [] => "no repositories available"
  | attempts => "; ".intercalate (attempts.map fun a => a.repository ++ " (" ++ a.reason ++ ")")

def message (f : Failure) : String :=
  "unable to download " ++ f.target ++ ": " ++ describe f.attempts

end Failure

end Depot.Download
