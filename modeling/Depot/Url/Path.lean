import Depot.Text.Split
import Depot.Url.Percent

/-!
Paths of URLs: segments behind slashes, where a segment of one dot is dropped and one of two dots
takes the segment before it along. A drive letter at the beginning of a file's path is never
dropped.
-/

namespace Depot.Url.Path

open Text

def isLetter (c : Char) : Bool := ('a' ≤ c && c ≤ 'z') || ('A' ≤ c && c ≤ 'Z')

def isDrive : List Char → Bool
  | [c, ':'] => isLetter c
  | _ => false

/-- A dot, possibly encoded. -/
def dot? : List Char → Option (List Char)
  | '.' :: rest => some rest
  | '%' :: '2' :: 'e' :: rest | '%' :: '2' :: 'E' :: rest => some rest
  | _ => none

def isSingleDot (segment : List Char) : Bool := dot? segment == some []

def isDoubleDot (segment : List Char) : Bool := (dot? segment).bind dot? == some []

def endsWithSlash (path : List Char) : Bool := path.getLast? == some '/'

/-- Everything up to the last slash. -/
def upToLastSlash (path : List Char) : List Char :=
  match splitLast '/' path with
  | some (before, _) => before ++ ['/']
  | none => []

/-- Drops the last segment with the slash behind it. -/
def dropLast (isFile : Bool) (path : List Char) : List Char :=
  let isProtected (before : List Char) : Bool :=
    isFile && isDrive (before.reverse.takeWhile (· != '/')).reverse
  match path.reverse with
  | '/' :: front =>
      let front := front.reverse
      if front.contains '/' && !isProtected front then upToLastSlash front else path
  | _ => if isProtected path then path else upToLastSlash path

/-- Adds a segment; all but the last one of a path have a slash behind them. -/
def add (isFile : Bool) (path : List Char) (segment : List Char) (slash : Bool) : List Char :=
  let tail := if slash then ['/'] else []
  if isDoubleDot segment then
    let path := dropLast isFile path
    if slash && !endsWithSlash path then path ++ ['/'] else path
  else if isSingleDot segment then if endsWithSlash path then path else path ++ ['/']
  else path ++ segment ++ tail

/-- Adds the segments of a text to what there is of a path. -/
def addAll (isFile : Bool) : List Char → List (List Char) → List Char
  | path, [] => path
  | path, [segment] => add isFile path segment false
  | path, segment :: more => addAll isFile (add isFile path segment true) more

/-- A file's path begins with exactly one slash. -/
def normalize (isSpecial isFile : Bool) (start : List Char) (s : List Char) : List Char :=
  let s := if isSpecial then replaceChar '\\' '/' s else s
  let path := addAll isFile start (splitAll '/' (Percent.encode Percent.path s))
  if isFile then '/' :: path.dropWhile (· == '/') else path

end Depot.Url.Path
