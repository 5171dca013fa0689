import Depot.Text.Composite
import Depot.Text.Utf8
import Depot.Url.Domain.Direction
import Depot.Url.Domain.Folding
import Depot.Url.Domain.Joining
import Depot.Url.Punycode

/-!
Names of hosts in their form in ASCII. A name consists of labels between points; a label with other
characters is written with the letters of ASCII after a mark of its own.
-/

namespace Depot.Url.Domain

open Text

/-- Characters of ASCII that no name may contain. -/
def forbidden : List Char := " #%/:<>?@[\\]^|\x7f".toList

def isForbidden (c : Char) : Bool := c.toNat < 0x20 || forbidden.contains c

def isAscii (c : Char) : Bool := c.toNat < 0x80

/-- What all spellings of a name have in common. -/
def unify? (s : List Char) : Option (List Char) := do
  let parts ← s.mapM fold?
  return Composite.compose parts.flatten

/-- The mark of labels that stand for labels with other characters. -/
def encodedMark : List Char := "xn--".toList

/-- The text that an encoded label stands for. It has to need encoding, and has to be in the form
in which it is encoded. -/
def decodeLabel? (encoded : List Char) : Option (List Char) := do
  let text ← Punycode.decode? encoded
  if text.all isAscii || unify? text != some text then none else some text

/-- A label as it is written and as it is meant. -/
structure Label where
  ascii : List Char
  text : List Char

def label? (s : List Char) : Option Label :=
  match afterLead? encodedMark s with
  | some encoded => if s.all isAscii then (decodeLabel? encoded).map fun text => ⟨s, text⟩ else none
  | none => some ⟨if s.all isAscii then s else encodedMark ++ Punycode.encode s, s⟩

/-- A mark needs a character before it. -/
def Label.isValid (l : Label) : Bool := !l.text.head?.any Mark.isMark && joinersFit [] l.text

def ofUnified? (s : List Char) : Option (List Char) := do
  if s.any isForbidden then none
  let labels ← (splitAll '.' s).mapM label?
  let mixed := labels.any fun l => Direction.isMixed l.text
  if labels.all fun l => l.isValid && (!mixed || Direction.isOrdered l.text) then
    return ['.'].intercalate (labels.map Label.ascii)
  else none

def toAscii? (bytes : Bytes) : Option (List Char) := do
  let s ← Utf8.decode? bytes
  ofUnified? (← unify? s.toList)

end Depot.Url.Domain
