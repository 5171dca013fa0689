import Depot.Url.Address
import Depot.Url.Domain
import Depot.Url.Percent

/-!
Hosts of URLs: names and numeric addresses. For the schemes that are known here, names are brought
to their form in ASCII, and a name that ends in a number has to be an address; all other schemes
have names that nothing is known about.
-/

namespace Depot.Url

open Text

inductive Error
  | emptyHost
  | invalidDomain
  | invalidCharacter
  | invalidPort
  | invalidIpv4
  | invalidIpv6
  | noScheme
deriving DecidableEq, Repr

def Error.message : Error → String
  | emptyHost => "empty host"
  | invalidDomain => "invalid international domain name"
  | invalidCharacter => "invalid domain character"
  | invalidPort => "invalid port number"
  | invalidIpv4 => "invalid IPv4 address"
  | invalidIpv6 => "invalid IPv6 address"
  | noScheme => "relative URL without a base"

inductive Host
  | domain (name : String)
  | ipv4 (a : Ipv4)
  | ipv6 (a : Ipv6)
deriving DecidableEq, Repr, Inhabited

namespace Host

def text : Host → String
  | domain name => name
  | ipv4 a => a.text
  | ipv6 a => "[" ++ a.text ++ "]"

/-- What follows an opening square bracket. -/
def parseBracketed (s : List Char) : Except Error Host :=
  match beforeTail? [']'] s with
  | none => .error .invalidIpv6
  | some inner =>
      match Ipv6.parse? inner with
      | some a => .ok (.ipv6 a)
      | none => .error .invalidIpv6

/-- The host of a scheme that is known here. -/
def parse (s : List Char) : Except Error Host :=
  match s with
  | '[' :: rest => parseBracketed rest
  | s =>
      match Domain.toAscii? (Percent.decode s) with
      | none => .error .invalidDomain
      | some [] => .error .emptyHost
      | some name =>
          if Ipv4.endsInNumber name then
            match Ipv4.parse? name with
            | some a => .ok (.ipv4 a)
            | none => .error .invalidIpv4
          else .ok (.domain (String.ofList name))

def forbidden : List Char := "\x00\t\n\r #/:<>?@[\\]^|".toList

/-- The host of any other scheme. -/
def parseOpaque (s : List Char) : Except Error Host :=
  match s with
  | '[' :: rest => parseBracketed rest
  | s =>
      if s.any forbidden.contains then .error .invalidCharacter
      else .ok (.domain (String.ofList (Percent.encode Percent.controls s)))

end Host

end Depot.Url
