import Depot.Text.Utf8

/-!
A tree of files and directories, and paths into it. Paths are bytes, as names of files need not be
text. A path is followed name by name: one dot stays, two dots go up, and everything but the last
name has to be a directory.
-/

namespace Depot

namespace Files

abbrev Path := Bytes

/-- The names on the way from the top. -/
abbrev Place := List Bytes

inductive Node
  | file (data : Bytes)
  | directory
deriving DecidableEq, Repr, Inhabited

inductive Error
  | notFound
  | notADirectory
  | isADirectory
  | invalidName
deriving DecidableEq, Repr

def Error.message : Error → String
  | notFound => "No such file or directory (os error 2)"
  | notADirectory => "Not a directory (os error 20)"
  | isADirectory => "Is a directory (os error 21)"
  | invalidName => "file name contained an unexpected NUL byte"

def slash : UInt8 := 0x2F

/-- The names between slashes, empty ones included. -/
def names : Path → List Bytes
  | [] => [[]]
  | b :: rest =>
      if b = slash then [] :: names rest
      else
        match names rest with
        | [] => [[b]]
        | name :: more => (b :: name) :: more

/-- A path below a directory; one that begins with a slash stands for itself. -/
def join (root path : Path) : Path :=
  if path.head? == some slash || root.isEmpty then path
  else if root.getLast? == some slash then root ++ path
  else root ++ slash :: path

end Files

/-- All files and directories below the top, which is always there. -/
abbrev Files := List (Files.Place × Files.Node)

namespace Files

def node? (fs : Files) (place : Place) : Option Node :=
  if place.isEmpty then some .directory else fs.lookup place

/-- Follows names from a place. -/
def walk (fs : Files) : Place → List Bytes → Except Error Place
  | place, [] => .ok place
  | place, name :: rest =>
      match fs.node? place with
      | none => .error .notFound
      | some (.file _) => .error .notADirectory
      | some .directory =>
          if name.isEmpty || name == [0x2E] then walk fs place rest
          else if name == [0x2E, 0x2E] then walk fs place.dropLast rest
          else walk fs (place ++ [name]) rest

/-- What a path leads to. -/
def resolve (fs : Files) (path : Path) : Except Error (Place × Node) :=
  if path.contains 0 then .error .invalidName
  else if path.isEmpty then .error .notFound
  else
    match walk fs [] (names path) with
    | .error e => .error e
    | .ok place =>
        match fs.node? place with
        | some node => .ok (place, node)
        | none => .error .notFound

def read (fs : Files) (path : Path) : Except Error Bytes :=
  match resolve fs path with
  | .error e => .error e
  | .ok (_, .directory) => .error .isADirectory
  | .ok (_, .file data) => .ok data

/-- The name of an entry of a directory, if the place is one. -/
def entry? (directory place : Place) : Option Bytes :=
  match directory.isPrefixOf? place with
  | some [name] => some name
  | _ => none

/-- Bytes compared one by one. -/
def bytesLe (a b : Bytes) : Bool := !decide (b < a)

/-- The directories in a directory, in the order of their names. -/
def directories (fs : Files) (path : Path) : Except Error (List Bytes) :=
  match resolve fs path with
  | .error e => .error e
  | .ok (_, .file _) => .error .notADirectory
  | .ok (directory, .directory) =>
      .ok ((fs.filterMap fun (place, node) =>
        if node = .directory then entry? directory place else none).mergeSort bytesLe)

/-- Adds a directory with all that it lies in. -/
def addDirectory (fs : Files) (place : Place) : Files :=
  (List.range place.length).foldl (fun fs k =>
    let place := place.take (k + 1)
    if (fs.node? place).isSome then fs else fs ++ [(place, .directory)]) fs

/-- Writes a file, with all directories that it lies in. -/
def addFile (fs : Files) (place : Place) (data : Bytes) : Files :=
  (addDirectory fs place.dropLast).filter (fun (p, _) => p != place) ++ [(place, .file data)]

/-- Removes what is at a place with all that is below it. -/
def remove (fs : Files) (place : Place) : Files :=
  fs.filter fun (p, _) => !place.isPrefixOf p

end Files

end Depot
