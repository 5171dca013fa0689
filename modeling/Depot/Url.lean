import Depot.Url.Host
import Depot.Url.Path

/-!
URLs, read leniently and written in one normal form.
-/

namespace Depot

open Text

structure Url where
  scheme : String
  username : String := ""
  password : Option String := none
  /-- Whether two slashes follow the scheme. -/
  hasAuthority : Bool := true
  host : Option Url.Host := none
  port : Option Nat := none
  path : String
  query : Option String := none
  fragment : Option String := none
deriving DecidableEq, Repr, Inhabited

namespace Url

inductive Kind
  | file
  /-- A scheme whose hosts are known to be names or addresses. -/
  | special
  | other
deriving DecidableEq, Repr

def kind : String → Kind
  | "file" => .file
  | "http" | "https" | "ws" | "wss" | "ftp" => .special
  | _ => .other

def defaultPort? : String → Option Nat
  | "http" | "ws" => some 80
  | "https" | "wss" => some 443
  | "ftp" => some 21
  | _ => none

/-- The scheme in lower case, and what follows its colon. -/
def scheme? (s : List Char) : Option (String × List Char) := do
  let (scheme, rest) ← splitFirst ':' s
  let first :: _ := scheme | none
  guard (Path.isLetter first)
  guard (scheme.all fun c => Path.isLetter c || ('0' ≤ c && c ≤ '9') || c ∈ ['+', '-', '.'])
  return (String.ofList (scheme.map Char.toLower), rest)

/-- A character at which host, port and user information end. -/
def endsAuthority (kind : Kind) (c : Char) : Bool :=
  c == '/' || c == '?' || c == '#' || (c == '\\' && kind != .other)

/-- User name, password and what follows them. The last at sign counts. -/
def userinfo (kind : Kind) (s : List Char) :
    Except Error (String × Option String × List Char) :=
  let authority := s.takeWhile fun c => !endsAuthority kind c
  let rest := s.drop authority.length
  match splitLast '@' authority with
  | none => .ok ("", none, s)
  | some ([], host) =>
      if host.isEmpty && !rest.isEmpty then .error .emptyHost else .ok ("", none, host ++ rest)
  | some (info, host) =>
      let encode (s : List Char) : String := String.ofList (Percent.encode Percent.userinfo s)
      match splitFirst ':' info with
      | none => .ok (encode info, none, host ++ rest)
      | some (name, []) => .ok (encode name, none, host ++ rest)
      | some (name, password) => .ok (encode name, some (encode password), host ++ rest)

/-- The text of a host: up to a colon outside of square brackets. -/
def hostText (kind : Kind) : Bool → List Char → List Char
  | _, [] => []
  | bracketed, c :: rest =>
      if endsAuthority kind c || (c == ':' && !bracketed) then []
      else c :: hostText kind (c == '[' || (bracketed && c != ']')) rest

/-- A port behind a colon, if it is not the scheme's own, and what follows. -/
def readPort (scheme : String) (s : List Char) : Except Error (Option Nat × List Char) :=
  match s with
  | ':' :: rest =>
      let digits := rest.takeWhile fun c => (digitValue? c).isSome
      let rest := rest.drop digits.length
      match Natural.read 65536 digits with
      | .error .empty =>
          if rest.head?.all fun c => c ∈ ['/', '\\', '?', '#'] then .ok (none, rest)
          else .error .invalidPort
      | .error _ => .error .invalidPort
      | .ok n =>
          if rest.head?.all fun c => c ∈ ['/', '\\', '?', '#'] then
            .ok (if defaultPort? scheme = some n then none else some n, rest)
          else .error .invalidPort
  | s => .ok (none, s)

/-- Path, query and fragment, not yet encoded. -/
structure Tail where
  path : List Char
  query : Option (List Char)
  fragment : Option (List Char)

def tail (s : List Char) : Tail :=
  let (s, fragment) := match splitFirst '#' s with
    | some (s, fragment) => (s, some fragment)
    | none => (s, none)
  match splitFirst '?' s with
  | some (path, query) => ⟨path, some query, fragment⟩
  | none => ⟨s, none, fragment⟩

def withTail (u : Url) (t : Tail) : Url :=
  let set := if kind u.scheme == .other then Percent.query else Percent.specialQuery
  { u with query := t.query.map fun q => String.ofList (Percent.encode set q),
           fragment := t.fragment.map fun f =>
             String.ofList (Percent.encode Percent.fragment f) }

/-- What follows two slashes, for all schemes but that of files. -/
def parseAuthority (scheme : String) (s : List Char) : Except Error Url := do
  let kind := kind scheme
  let (username, password, s) ← userinfo kind s
  let text := hostText kind false s
  let rest := s.drop text.length
  let host ← if kind == .special then
      if text.isEmpty then .error .emptyHost else Host.parse text
    else Host.parseOpaque text
  let isEmpty := host == .domain ""
  if isEmpty && (rest.head? == some ':' || !username.isEmpty || password.isSome) then
    .error .emptyHost
  else
    let (port, rest) ← readPort scheme rest
    let t := tail rest
    let path :=
      if kind == .special then
        match t.path with
        | '/' :: more | '\\' :: more => Path.normalize true false ['/'] more
        | more => Path.normalize true false ['/'] more
      else
        match t.path with
        | [] => []
        | '/' :: _ => Path.normalize false false [] t.path
        | more => Path.normalize false false ['/'] more
    return withTail
      { scheme, username, password, host := if isEmpty then none else some host, port,
        path := String.ofList path } t

/-- A file's path behind a host, which is dropped in front of a drive letter. -/
def filePath (host : Option Host) (t : Tail) : Url :=
  let path := match t.path with
    | '/' :: more | '\\' :: more => Path.normalize true true ['/'] more
    | more => Path.normalize true true ['/'] more
  let first := (path.drop 1).takeWhile (· != '/')
  withTail { scheme := "file", host := if Path.isDrive first then none else host,
             path := String.ofList path } t

def parseFile (s : List Char) : Except Error Url :=
  let isSlash (c : Char) : Bool := c == '/' || c == '\\'
  match s with
  | a :: b :: rest =>
      if isSlash a && isSlash b then
        let text := rest.takeWhile fun c => !endsAuthority .file c
        if Path.isDrive (replaceChar '|' ':' text) then .ok (filePath none (tail rest))
        else
          let t := tail (rest.drop text.length)
          if text.isEmpty then .ok (filePath none t)
          else
            match Host.parse text with
            | .error e => .error e
            | .ok host => .ok (filePath (if host == .domain "localhost" then none else some host) t)
      else .ok (filePath none (tail s))
  | s => .ok (filePath none (tail s))

/-- Without two slashes there is no host; the path is a list of segments or any text. -/
def parseOther (scheme : String) (s : List Char) : Url :=
  let t := tail s
  let path := match t.path with
    | '/' :: more => Path.normalize false false ['/'] more
    | text => Percent.encode Percent.controls text
  withTail { scheme, hasAuthority := false, path := String.ofList path } t

/-- Controls and spaces around a URL do not count, nor do tabs and line breaks within. -/
def clean (s : List Char) : List Char :=
  let outer (c : Char) : Bool := c.toNat ≤ 0x20
  (dropEndWhile outer (s.dropWhile outer)).filter fun c => c != '\t' && c != '\n' && c != '\r'

def parse (s : String) : Except Error Url :=
  match scheme? (clean s.toList) with
  | none => .error .noScheme
  | some (scheme, rest) =>
      match kind scheme with
      | .file => parseFile rest
      | .special => parseAuthority scheme (rest.dropWhile fun c => c == '/' || c == '\\')
      | .other =>
          match rest with
          | '/' :: '/' :: rest => parseAuthority scheme rest
          | rest => .ok (parseOther scheme rest)

def text (u : Url) : String :=
  let user := match u.password with
    | none => if u.username.isEmpty then "" else u.username ++ "@"
    | some password => u.username ++ ":" ++ password ++ "@"
  let authority :=
    if u.hasAuthority then
      "//" ++ user ++ (u.host.map Host.text).getD "" ++
        (match u.port with | none => "" | some n => ":" ++ Natural.write n)
    else if (afterLead? ['/', '/'] u.path.toList).isSome then "/." else ""
  u.scheme ++ ":" ++ authority ++ u.path ++
    (match u.query with | none => "" | some q => "?" ++ q) ++
    (match u.fragment with | none => "" | some f => "#" ++ f)

/-- A path of the file system, in bytes; there is none for files of other hosts and for paths that
are no list of segments. One that ends in a drive letter gets a slash behind it. -/
def filePath? (u : Url) : Option Bytes :=
  match u.path.toList with
  | '/' :: path =>
      if u.host.isSome && u.host != some (.domain "localhost") then none
      else
        let bytes := (splitAll '/' path).flatMap fun segment => 0x2F :: Percent.decode segment
        match bytes.reverse with
        | mark :: letter :: _ :: _ =>
            if (mark == 0x3A || mark == 0x7C) && Path.isLetter (Char.ofNat letter.toNat) then
              some (bytes ++ [0x2F])
            else some bytes
        | _ => some bytes
  | _ => none

end Url

end Depot
