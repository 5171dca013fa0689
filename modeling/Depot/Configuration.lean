import Depot.HostPolicy
import Depot.Http.Request
import Depot.Repository.Document

/-!
The configuration: how to reach repositories, which hosts are allowed, and which repositories to
ask. Everything has a default.
-/

namespace Depot

open Json

structure Configuration where
  listenAddress : String := "127.0.0.1:3000"
  userAgent : String := "curl/7.68.0"
  connectTimeout : Nat := 10000
  readTimeout : Nat := 30000
  maxAttempts : Nat := 2
  retryDelay : Nat := 500
  allowLoopback : Bool := false
  blockedHosts : List String := []
  /-- Asked before all others. -/
  localRepository : Option Repository := none
  repositories : List Repository :=
    [{ id := "central", uri := "https://repo.maven.apache.org/maven2", snapshotsEnabled := false,
       knownToExist := true }]
deriving DecidableEq, Repr, Inhabited

namespace Configuration

def settings (c : Configuration) : Http.Settings where
  connectTimeout := c.connectTimeout
  readTimeout := c.readTimeout
  retry := ⟨c.maxAttempts, c.retryDelay⟩
  userAgent := c.userAgent

def hostPolicy (c : Configuration) : HostPolicy := ⟨c.allowLoopback, c.blockedHosts⟩

structure Draft where
  listenAddress : Option String := none
  userAgent : Option String := none
  connectTimeout : Option Nat := none
  readTimeout : Option Nat := none
  maxAttempts : Option Nat := none
  retryDelay : Option Nat := none
  allowLoopback : Option Bool := none
  blockedHosts : Option (List String) := none
  localRepository : Option (Option Repository) := none
  repositories : Option (List Repository) := none

def Draft.fields : List (Member Draft) :=
  let text := Decoder.string
  let time := Decoder.natural UInt64.size "u64"
  [.single "listen_address" text (·.listenAddress) fun r a => { r with listenAddress := some a },
   .single "user_agent" text (·.userAgent) fun r a => { r with userAgent := some a },
   .single "connect_timeout_ms" time (·.connectTimeout)
     fun r a => { r with connectTimeout := some a },
   .single "read_timeout_ms" time (·.readTimeout) fun r a => { r with readTimeout := some a },
   .single "max_attempts" (.natural UInt32.size "u32") (·.maxAttempts)
     fun r a => { r with maxAttempts := some a },
   .single "retry_delay_ms" time (·.retryDelay) fun r a => { r with retryDelay := some a },
   .single "allow_loopback" .boolean (·.allowLoopback)
     fun r a => { r with allowLoopback := some a },
   .single "blocked_hosts" (.list text) (·.blockedHosts)
     fun r a => { r with blockedHosts := some a },
   .single "local_repository" (.option Repository.decoder) (·.localRepository)
     fun r a => { r with localRepository := some a },
   .single "repositories" (.list Repository.decoder) (·.repositories)
     fun r a => { r with repositories := some a }]

def Draft.close (d : Draft) : Configuration :=
  let c : Configuration := {}
  { listenAddress := d.listenAddress.getD c.listenAddress
    userAgent := d.userAgent.getD c.userAgent
    connectTimeout := d.connectTimeout.getD c.connectTimeout
    readTimeout := d.readTimeout.getD c.readTimeout
    maxAttempts := d.maxAttempts.getD c.maxAttempts
    retryDelay := d.retryDelay.getD c.retryDelay
    allowLoopback := d.allowLoopback.getD c.allowLoopback
    blockedHosts := d.blockedHosts.getD c.blockedHosts
    localRepository := d.localRepository.getD c.localRepository
    repositories := d.repositories.getD c.repositories }

def decoder : Decoder Configuration :=
  Decoder.record "ResolverConfig" Draft.fields 0 {} Draft.close

end Configuration

end Depot
