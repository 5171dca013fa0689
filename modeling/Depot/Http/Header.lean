import Depot.Text.Utf8

/-!
Header fields of requests and responses. Names are kept in lower case.
-/

namespace Depot.Http

structure Header where
  name : String
  value : Bytes
deriving DecidableEq, Repr, Inhabited

namespace Header

/-- The form in which a character of a name is kept, if it may stand in one. -/
def nameChar? (c : Char) : Option Char :=
  let c := c.toLower
  if ('a' ≤ c ∧ c ≤ 'z') ∨ ('0' ≤ c ∧ c ≤ '9') ∨ c ∈ "!#$%&'*+-.^_\x60|~".toList then some c
  else none

def name? (s : String) : Option String :=
  if s.isEmpty then none else (s.toList.mapM nameChar?).map String.ofList

/-- A byte of a value: no control character but the tab. -/
def isValueByte (b : UInt8) : Bool := b == 9 || (32 ≤ b && b != 127)

def isValue (value : Bytes) : Bool := value.all isValueByte

/-- A header with this name and value, if both can be sent. -/
def ofParts? (name : String) (value : Bytes) : Option Header := do
  let name ← name? name
  guard (isValue value)
  return ⟨name, value⟩

/-- The value as text, if it consists of visible characters, spaces and tabs. -/
def text? (h : Header) : Option (List Char) :=
  if h.value.all fun b => b == 9 || (32 ≤ b && b < 127) then
    some (h.value.map fun b => Char.ofNat b.toNat)
  else none

end Header

abbrev Headers := List Header

namespace Headers

/-- The first header of a name. -/
def get? (hs : Headers) (name : String) : Option Header := hs.find? fun h => h.name == name

/-- Replaces all headers of that name by one. -/
def set (hs : Headers) (h : Header) : Headers := hs.filter (fun k => k.name != h.name) ++ [h]

end Headers

end Depot.Http
