import Depot.Configuration
import Depot.Files
import Depot.Url.Address

/-!
What the service needs before it can run: its configuration, from a file if one is named, and an
address to listen on.
-/

namespace Depot.Configuration

open Text

/-- Why a file can not be read as text. -/
inductive FileFault
  | files (e : Files.Error)
  | notText
deriving DecidableEq, Repr

inductive Cause
  | file (fault : FileFault)
  | json (e : Json.Error)
  | address
deriving DecidableEq, Repr

structure StartupError where
  message : String
  cause : Cause
deriving DecidableEq, Repr

/-- Reads a configuration file; `read` is how the file system answers. -/
def load (read : Files.Path → Except Files.Error Bytes) (path : String) :
    Except StartupError Configuration :=
  let fail (fault : FileFault) : Except StartupError Configuration :=
    .error ⟨"reading configuration from " ++ path, .file fault⟩
  match read (Utf8.encode path) with
  | .error e => fail (.files e)
  | .ok bytes =>
      match Utf8.decode? bytes with
      | none => fail .notText
      | some s =>
          match Json.Decoder.text decoder s.toList with
          | .ok c => .ok c
          | .error e => .error ⟨"parsing configuration in " ++ path, .json e⟩

/-- The environment variable that names the configuration file. -/
def pathVariable : String := "MAVEN_RESOLVER_CONFIG"

/-- An argument counts more than the variable; without both there are only defaults. -/
def start (read : Files.Path → Except Files.Error Bytes) (argument fromVariable : Option String) :
    Except StartupError Configuration :=
  match argument.or fromVariable with
  | some path => load read path
  | none => .ok {}

/-- An address that can be listened on: octets or pieces in brackets, and a port. -/
def isSocketAddress (s : String) : Bool :=
  let isNumber (bound : Nat) (s : List Char) : Bool :=
    s.head? != some '+' && (Natural.read bound s).toOption.isSome
  match splitLast ':' s.toList with
  | none => false
  | some (host, port) =>
      isNumber 65536 port &&
        match host with
        | '[' :: rest =>
            match beforeTail? [']'] rest with
            | none => false
            | some inner =>
                match splitFirst '%' inner with
                | none => (Url.Ipv6.parse? inner).isSome
                | some (inner, scope) =>
                    (Url.Ipv6.parse? inner).isSome && isNumber UInt32.size scope
        | host => (Url.Ipv6.dotted? host).isSome

/-- The configuration of a service that can be started. -/
def startService (read : Files.Path → Except Files.Error Bytes)
    (argument fromVariable : Option String) : Except StartupError Configuration := do
  let c ← start read argument fromVariable
  if isSocketAddress c.listenAddress then .ok c
  else .error ⟨"invalid listen address " ++ Quoted.write c.listenAddress, .address⟩

end Depot.Configuration
