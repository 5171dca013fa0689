import Depot.Text.Natural
import Depot.Text.Split

/-!
The absolute URI that a request is sent to, read strictly: nothing is encoded or repaired.
-/

namespace Depot.Http

open Text

/-- Why a request can not be sent. -/
inductive Invalid
  | character
  | format
  | empty
  | authority
  | tooLong
  | schemeTooLong
  | notAbsolute
  | headerValue
deriving DecidableEq, Repr

def Invalid.message : Invalid → String
  | character => "invalid uri character"
  | format => "invalid format"
  | empty => "empty string"
  | authority => "invalid authority"
  | tooLong => "uri too long"
  | schemeTooLong => "scheme too long"
  | notAbsolute => "not an absolute URI"
  | headerValue => "failed to parse header value"

structure Target where
  scheme : String
  authority : List Char
  /-- Path and query, possibly empty. -/
  path : List Char
deriving DecidableEq, Repr

namespace Target

def isAlphanumeric (c : Char) : Bool :=
  ('a' ≤ c && c ≤ 'z') || ('A' ≤ c && c ≤ 'Z') || ('0' ≤ c && c ≤ '9')

def isSchemeChar (c : Char) : Bool := isAlphanumeric c || c ∈ ['+', '-', '.', '~']

def isUriChar (c : Char) : Bool := isAlphanumeric c || c ∈ "!#$&'()*+,-./:;=?@[]_~".toList

/-- The scheme in front of a colon and two slashes, and what follows. -/
def scheme? (s : List Char) : Except Invalid (Option (List Char × List Char)) :=
  let scheme := s.takeWhile isSchemeChar
  match afterLead? "://".toList (s.drop scheme.length) with
  | none => .ok none
  | some rest =>
      let name := scheme.map Char.toLower
      if name == "http".toList || name == "https".toList then .ok (some (name, rest))
      else if scheme.length > 64 then .error .schemeTooLong
      else .ok (some (scheme, rest))

/-- What has been seen of an authority. -/
structure Seen where
  colons : Nat := 0
  opened : Bool := false
  closed : Bool := false
  percent : Bool := false
  /-- The last character was an at sign. -/
  atEnd : Bool := false

/-- An at sign ends the user information, a closing bracket an address; what was counted before
does not belong to the host. -/
def Seen.add (s : Seen) (c : Char) : Except Invalid Seen :=
  let s := { s with atEnd := c == '@' }
  match c with
  | ':' => if s.colons ≥ 8 then .error .authority else .ok { s with colons := s.colons + 1 }
  | '[' => if s.percent || s.opened then .error .authority else .ok { s with opened := true }
  | ']' =>
      if !s.opened || s.closed then .error .authority
      else .ok { s with closed := true, colons := 0, percent := false }
  | '@' => .ok { s with colons := 0, percent := false }
  | '%' => .ok { s with percent := true }
  | c => if isUriChar c then .ok s else .error .character

/-- At most one colon is left for the port. -/
def Seen.isWhole (s : Seen) : Bool :=
  s.opened == s.closed && s.colons ≤ 1 && !s.atEnd && !s.percent

/-- The authority at the beginning, and what follows. -/
def readAuthority (s : List Char) : Except Invalid (List Char × List Char) :=
  let text := s.takeWhile fun c => c != '/' && c != '?' && c != '#'
  match text.foldlM Seen.add {} with
  | .error e => .error e
  | .ok seen => if seen.isWhole then .ok (text, s.drop text.length) else .error .authority

def isPathChar (c : Char) : Bool :=
  let n := c.toNat
  n == 0x21 || n == 0x22 || (0x24 ≤ n && n ≤ 0x3B) || n == 0x3D || (0x40 ≤ n && n ≤ 0x5F) ||
    (0x61 ≤ n && n ≤ 0x7E)

def isQueryChar (c : Char) : Bool :=
  let n := c.toNat
  n == 0x21 || (0x24 ≤ n && n ≤ 0x3B) || n == 0x3D || (0x3F ≤ n && n ≤ 0x7E)

/-- Path and query without the fragment, which is not looked at. -/
def pathAndQuery (s : List Char) : Except Invalid (List Char) :=
  let path := s.takeWhile fun c => c != '?' && c != '#'
  if !path.all isPathChar then .error .character
  else
    match s.drop path.length with
    | '?' :: rest =>
        let query := rest.takeWhile (· != '#')
        if query.all isQueryChar then .ok (path ++ '?' :: query) else .error .character
    | _ => .ok path

def parse (uri : String) : Except Invalid Target :=
  let s := uri.toList
  if uri.utf8ByteSize > 65534 then .error .tooLong
  else
    match s with
    | [] => .error .empty
    | ['/'] | ['*'] => .error .notAbsolute
    | [c] =>
        match readAuthority [c] with
        | .error e => .error e
        | .ok ([], _) => .error .character
        | .ok _ => .error .notAbsolute
    | '/' :: _ => pathAndQuery s >>= fun _ => .error .notAbsolute
    | s => do
        match ← scheme? s with
        | none =>
            let (_, rest) ← readAuthority s
            if rest.isEmpty then .error .notAbsolute else .error .format
        | some (scheme, rest) =>
            let (host, rest) ← readAuthority rest
            if host.isEmpty then .error .format
            else
              let path ← pathAndQuery rest
              .ok ⟨String.ofList scheme, host, path⟩

/-- Host and port without the user information. -/
def hostPort (t : Target) : List Char :=
  match splitLast '@' t.authority with
  | some (_, host) => host
  | none => t.authority

/-- The host, with the brackets of an address. -/
def host (t : Target) : List Char :=
  match t.hostPort with
  | '[' :: rest => '[' :: (rest.takeWhile (· != ']') ++ [']'])
  | s => s.takeWhile (· != ':')

/-- The number behind the last colon. -/
def port? (t : Target) : Option Nat :=
  (splitLast ':' t.authority).bind fun (_, port) => (Natural.read 65536 port).toOption

def defaultPort? (scheme : String) : Option Nat :=
  if scheme == "http" then some 80 else if scheme == "https" then some 443 else none

/-- The host in lower case, with the port if it is not the scheme's own. -/
def server (t : Target) : String :=
  let host := String.ofList (t.host.map Char.toLower)
  match t.port? with
  | some port =>
      if defaultPort? t.scheme = some port then host else host ++ ":" ++ Natural.write port
  | none => host

/-- Path and query as they are sent, with at least a slash. -/
def requestPath (t : Target) : String :=
  match t.path with
  | [] => "/"
  | '?' :: _ => String.ofList ('/' :: t.path)
  | path => String.ofList path

end Target

end Depot.Http
