import Depot.Network

/-!
A network of servers with prepared answers. A list of answers is used up one by one, and its last
one from then on; how many have been used is read off what reached the network before.
-/

namespace Depot.Network

open Http

structure Server where
  connections : List Connection := []
  /-- Answers by method and path, or by path alone. -/
  routes : List (String × List Answer) := []
  /-- Answers to requests without a route. -/
  otherwise : Option (List Answer) := none
  /-- Answers to all requests with an authorization. -/
  authorized : Option (List Answer) := none
  /-- The authorization that is asked for, and the answers to requests without it. -/
  required : Option (Bytes × List Answer) := none
deriving Repr, Inhabited

/-- Which list of answers a request draws from. -/
inductive Server.Source
  | authorized
  | denied
  | route (key : String)
  | otherwise
deriving DecidableEq, Repr

namespace Server

def source (s : Server) (sent : Sent) : Source :=
  let authorization := (sent.headers.get? "authorization").map Header.value
  if s.authorized.isSome && authorization.isSome then .authorized
  else if s.required.any fun (value, _) => authorization != some value then .denied
  else
    let withMethod := sent.method ++ " " ++ sent.path
    if (s.routes.lookup withMethod).isSome then .route withMethod
    else if (s.routes.lookup sent.path).isSome then .route sent.path
    else .otherwise

def answers (s : Server) : Source → List Answer
  | .authorized => s.authorized.getD []
  | .denied => (s.required.map (·.2)).getD []
  | .route key => (s.routes.lookup key).getD []
  | .otherwise => s.otherwise.getD []

end Server

/-- The element at this position, or the last one. -/
def nth (as : List α) (k : Nat) (default : α) : α := (as[k]?.or as.getLast?).getD default

abbrev Script := List (String × Server)

namespace Script

def connections (server : String) (history : List Contact) : Nat :=
  history.countP fun
    | .request sent => sent.server == server
    | .noConnection name _ => name == server

def uses (s : Server) (server : String) (source : Server.Source) (history : List Contact) : Nat :=
  history.countP fun
    | .request sent => sent.server == server && s.source sent == source
    | .noConnection _ _ => false

def network (script : Script) : Network where
  connect history server :=
    match script.lookup server with
    | none => .fails .unknownHost
    | some s => { connection := nth s.connections (connections server history) .works }
  answer history sent :=
    match script.lookup sent.server with
    | none => {}
    | some s =>
        let source := s.source sent
        nth (s.answers source) (uses s sent.server source history) { status := 404 }

end Script

end Depot.Network
