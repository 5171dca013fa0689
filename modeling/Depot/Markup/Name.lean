import Depot.Text.Range
import Depot.Text.Split

/-!
Characters and names of markup.
-/

namespace Depot.Markup

open Text

/-- White space of markup; other blanks are ordinary characters. -/
def isSpace (c : Char) : Bool := c == ' ' || c == '\t' || c == '\n' || c == '\r'

def nameStartRanges : Ranges :=
  [(0x41, 0x5A), (0x5F, 0x5F), (0x61, 0x7A), (0xC0, 0xD6), (0xD8, 0xF6), (0xF8, 0x2FF),
   (0x370, 0x37D), (0x37F, 0x1FFF), (0x200C, 0x200D), (0x2070, 0x218F), (0x2C00, 0x2FEF),
   (0x3001, 0xD7FF), (0xF900, 0xFDCF), (0xFDF0, 0xFFFD), (0x10000, 0xEFFFF)]

def nameMoreRanges : Ranges :=
  [(0x2D, 0x2E), (0x30, 0x39), (0xB7, 0xB7), (0x300, 0x36F), (0x203F, 0x2040)]

/-- A character that a name may begin with, the colon apart. -/
def isNameStart (c : Char) : Bool := nameStartRanges.contains c

def isNameChar (c : Char) : Bool := isNameStart c || nameMoreRanges.contains c

/-- The editions of markup differ in the characters that may stand in a document. -/
inductive Edition
  | first
  | second
deriving DecidableEq, Repr

/-- A character that a document may contain as itself. -/
def Edition.allows (edition : Edition) (c : Char) : Bool :=
  let n := c.toNat
  match edition with
  | .first => isSpace c || (0x20 ≤ n && n ≠ 0xFFFE && n ≠ 0xFFFF)
  | .second =>
      isSpace c || n == 0x85 ||
        (0x20 ≤ n && !(0x7F ≤ n && n ≤ 0x9F) && n ≠ 0xFFFE && n ≠ 0xFFFF)

/-- A character that a numeric reference may stand for. -/
def Edition.allowsReference (edition : Edition) (c : Char) : Bool :=
  match edition with
  | .first => edition.allows c
  | .second => 1 ≤ c.toNat && c.toNat ≠ 0xFFFE && c.toNat ≠ 0xFFFF

/-- A name with the label of its namespace, if it has one. -/
structure Name where
  label : Option String
  part : String
deriving DecidableEq, Repr, Inhabited

/-- At most one colon, with something before and after it. -/
def Name.ofChars? (s : List Char) : Option Name :=
  let isPlain : List Char → Bool
    | c :: rest => isNameStart c && rest.all isNameChar
    | [] => false
  match splitFirst ':' s with
  | none => if isPlain s then some ⟨none, String.ofList s⟩ else none
  | some (label, part) =>
      if isPlain label && !part.isEmpty && part.all isNameChar then
        some ⟨some (String.ofList label), String.ofList part⟩
      else none

end Depot.Markup
