import Depot.Configuration.Startup

/-!
The command line: checks whether the service can start with the configuration file that is named
by the first argument or by the environment.
-/

namespace Depot.Main

/-- Reads a file of the file system. -/
def readFile (path : String) : IO (Except Files.Error Bytes) := do
  try
    return .ok (← IO.FS.readBinFile path).toList
  catch
    | .noFileOrDirectory .. => return .error .notFound
    | .inappropriateType .. => return .error .isADirectory
    | _ => return .error .notADirectory

def describe : Configuration.Cause → String
  | .file (.files e) => e.message
  | .file .notText => "stream did not contain valid UTF-8"
  | .json (.data message) => message
  | .json (.fault _) => "not well-formed"
  | .address => "invalid socket address syntax"

end Depot.Main

def main (args : List String) : IO UInt32 := do
  let fromVariable ← IO.getEnv Depot.Configuration.pathVariable
  let content ← match args.head?.or fromVariable with
    | some path => Depot.Main.readFile path
    | none => pure (.error .notFound)
  match Depot.Configuration.startService (fun _ => content) args.head? fromVariable with
  | .ok c =>
      IO.println ("ready to serve " ++ c.listenAddress)
      return 0
  | .error e =>
      IO.eprintln ("Error: " ++ e.message ++ "\n\nCaused by:\n    " ++ Depot.Main.describe e.cause)
      return 1
