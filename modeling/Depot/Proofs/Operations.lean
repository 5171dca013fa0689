import Depot.Service

/-!
What can be asked for, and runs: operations one after the other, with one record and one set of
caches, in a world that may change between them.
-/

namespace Depot

inductive Operation
  | normalize (r : Repository)
  | normalizeAll (rs : List Repository)
  | download (coordinates : Coordinates) (relocation : Option Relocation)
      (preferred : Option Repository) (rs : List Repository)
  | downloadArtifact (artifact : Artifact) (preferred : Option Repository) (rs : List Repository)
  | downloadMetadata (ga : GroupArtifact) (preferred : Option Repository) (rs : List Repository)
  | getFile (path : String)
  | getMetadata (ga : GroupArtifact)

namespace Operation

/-- The descriptions of repositories that an operation works with. -/
def supplied (c : Configuration) : Operation → List Repository
  | normalize r => [r]
  | normalizeAll rs => rs
  | download _ _ preferred rs => Download.sources c preferred rs
  | downloadArtifact _ preferred rs => Download.sources c preferred rs
  | downloadMetadata _ preferred rs => Download.sources c preferred rs
  | getFile _ => Download.sources c none c.repositories
  | getMetadata _ => Download.sources c none c.repositories

/-- The file that an operation downloads, if it downloads one. -/
def artifact? : Operation → Option Artifact
  | download coordinates relocation _ _ =>
      some (.pom ((relocation.map fun r => r.apply coordinates).getD coordinates))
  | downloadArtifact artifact _ _ => some artifact
  | getFile path => (Layout.readPath path).toOption
  | _ => none

/-- What an operation tells the versions of, if it tells any. -/
def groupArtifact? : Operation → Option GroupArtifact
  | downloadMetadata ga _ _ => some ga
  | getMetadata ga => some ga
  | _ => none

/-- The session after an operation, whatever the operation answers. -/
def after (c : Configuration) : Operation → Session → Session
  | normalize r, s => (Normalization.normalize c r s).2
  | normalizeAll rs, s => (Normalization.normalizeAll c rs s).2
  | download coordinates relocation preferred rs, s =>
      (Download.download c coordinates relocation preferred rs s).2
  | downloadArtifact artifact preferred rs, s =>
      (Download.downloadArtifact c artifact preferred rs s).2
  | downloadMetadata ga preferred rs, s => (Download.downloadMetadata c ga preferred rs s).2
  | getFile path, s => (Service.getFile c path s).2
  | getMetadata ga, s => (Service.getMetadata c ga s).2

/-- What an operation answers. -/
inductive Reply
  | repository (found : Option Repository)
  | repositories (found : List (Option Repository))
  | file (outcome : Except Download.Failure Download.Resolved)
  | metadata (found : Option Metadata)
  | response (response : Service.Response)

def perform (c : Configuration) : Operation → Run Reply
  | normalize r => return .repository (← Normalization.normalize c r)
  | normalizeAll rs => return .repositories (← Normalization.normalizeAll c rs)
  | download coordinates relocation preferred rs =>
      return .file (← Download.download c coordinates relocation preferred rs)
  | downloadArtifact artifact preferred rs =>
      return .file (← Download.downloadArtifact c artifact preferred rs)
  | downloadMetadata ga preferred rs =>
      return .metadata (← Download.downloadMetadata c ga preferred rs)
  | getFile path => return .response (← Service.getFile c path)
  | getMetadata ga => return .response (← Service.getMetadata c ga)

end Operation

inductive Event
  | ask (operation : Operation)
  | change (network : Network) (files : Files) (environment : List (String × String))

namespace Event

def supplied (c : Configuration) : Event → List Repository
  | ask operation => operation.supplied c
  | change _ _ _ => []

def after (c : Configuration) : Event → Session → Session
  | ask operation, s => operation.after c s
  | change network files environment, s => { s with network, files, environment }

end Event

/-- The session after a run. -/
def Session.run (c : Configuration) (s : Session) (events : List Event) : Session :=
  events.foldl (fun s event => event.after c s) s

@[simp]
theorem Session.run_nil (c : Configuration) (s : Session) : s.run c [] = s := rfl

@[simp]
theorem Session.run_cons (c : Configuration) (s : Session) (event : Event) (events : List Event) :
    s.run c (event :: events) = (event.after c s).run c events := rfl

end Depot
