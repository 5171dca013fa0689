import Depot.Cache
import Depot.Coordinates
import Depot.Files
import Depot.Http.Conversation
import Depot.Metadata
import Depot.Network

/-!
What a run works with: the world around it, a record of what it touched, and the caches. The world
is network, clock, files and environment.
-/

namespace Depot

open Http

/-- What a verdict on a repository is kept for. -/
structure Normalization.Key where
  uri : String
  hasCredentials : Bool
deriving DecidableEq, Repr

/-- What a repository's metadata is kept for. -/
structure Metadata.Key where
  repository : String
  groupArtifact : GroupArtifact
  /-- Set for the builds of a snapshot. -/
  versionDirectory : Option String
deriving DecidableEq, Repr

structure Session where
  network : Network := .empty
  /-- What reached the network, the first contact first. -/
  contacts : List Contact := []
  /-- Milliseconds since the beginning. -/
  clock : Nat := 0
  files : Files := []
  /-- The files and directories that were looked at, the first one first. -/
  opened : List Files.Path := []
  environment : List (String × String) := []
  normalized : Cache Normalization.Key Bool := []
  metadata : Cache Metadata.Key (Option Metadata) := []

abbrev Run := StateM Session

namespace Session

def lookup (s : Session) (name : String) : Option String := s.environment.lookup name

def touch (s : Session) (contact : Contact) : Session :=
  { s with contacts := s.contacts ++ [contact] }

def wait (s : Session) (ms : Nat) : Session := { s with clock := s.clock + ms }

/-- Begins an attempt: how long it will take, and its outcome. -/
def contact (s : Session) (sent : Sent) (limits : Limits) :
    (Nat × Except Cause Response) × Session :=
  let met := s.network.attempt s.contacts sent limits
  (met.1, s.touch met.2)

/-- Holds a conversation to its end. -/
def hold : Conversation α → Run α
  | .done a => pure a
  | .attempt sent limits next => fun s =>
      let ((ms, outcome), s) := s.contact sent limits
      hold (next outcome) (s.wait ms)
  | .pause ms next => fun s => hold next (s.wait ms)

/-- Reads a file. -/
def readFile (path : Files.Path) : Run (Except Files.Error Bytes) := fun s =>
  (s.files.read path, { s with opened := s.opened ++ [path] })

/-- Lists the directories in a directory. -/
def listDirectories (path : Files.Path) : Run (Except Files.Error (List Bytes)) := fun s =>
  (s.files.directories path, { s with opened := s.opened ++ [path] })

end Session

end Depot
