import Depot.Url

/-!
Hosts that repositories must not live on: those that are blocked by name or address, and those that
are not elsewhere.
-/

namespace Depot

open Text

structure HostPolicy where
  allowLoopback : Bool := false
  blockedHosts : List String := []
deriving DecidableEq, Repr, Inhabited

namespace HostPolicy

inductive Reason
  | noHost
  | blocked (host : String)
  | notRoutable (host : String)
  | linkLocal (host : String)
  | loopbackAddress (host : String)
  | loopbackHost (host : String)
deriving DecidableEq, Repr

def Reason.message : Reason → String
  | noHost => "no host"
  | blocked host => host ++ " is blocked"
  | notRoutable host => host ++ " is not a routable address"
  | linkLocal host => host ++ " is a link-local address"
  | loopbackAddress host => host ++ " is a loopback address"
  | loopbackHost host => host ++ " is a loopback host"

def lowercase (s : String) : String := String.ofList (s.toList.map Char.toLower)

/-- Takes square brackets off both ends. -/
def unbracket (s : String) : String :=
  let isBracket (c : Char) : Bool := c == '[' || c == ']'
  String.ofList (dropEndWhile isBracket (s.toList.dropWhile isBracket))

def checkIpv4 (p : HostPolicy) (a : Url.Ipv4) : Option Reason :=
  if p.blockedHosts.contains a.text then some (.blocked a.text)
  else if a.isUnspecified || a.isBroadcast then some (.notRoutable a.text)
  else if a.isLinkLocal then some (.linkLocal a.text)
  else if a.isLoopback && !p.allowLoopback then some (.loopbackAddress a.text)
  else none

def checkIpv6 (p : HostPolicy) (a : Url.Ipv6) : Option Reason :=
  match a.mapped? with
  | some b => p.checkIpv4 b
  | none =>
      if p.blockedHosts.any fun h => unbracket h == a.text then some (.blocked a.text)
      else if a.isUnspecified then some (.notRoutable a.text)
      else if a.isLinkLocal then some (.linkLocal a.text)
      else if a.isLoopback && !p.allowLoopback then some (.loopbackAddress a.text)
      else none

/-- Names are compared without regard to case. -/
def checkDomain (p : HostPolicy) (name : String) : Option Reason :=
  let name := lowercase name
  if p.blockedHosts.any fun h => lowercase h == name then some (.blocked name)
  else if !p.allowLoopback &&
      (name == "localhost" || (beforeTail? ".localhost".toList name.toList).isSome) then
    some (.loopbackHost name)
  else none

/-- Why a URL is refused, if it is. -/
def check (p : HostPolicy) (u : Url) : Option Reason :=
  match u.host with
  | none => some .noHost
  | some (.domain name) => p.checkDomain name
  | some (.ipv4 a) => p.checkIpv4 a
  | some (.ipv6 a) => p.checkIpv6 a

end HostPolicy

end Depot
