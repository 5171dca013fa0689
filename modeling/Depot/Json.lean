import Depot.Text.Natural

/-!
Values of structured text. A text that breaks off or is not well-formed has values up to the fault,
so that what precedes it can be read.
-/

namespace Depot

/-- Where reading a text ends before its value does. -/
inductive Json.Fault
  /-- A character that can not stand there. -/
  | malformed
  /-- The end of the text. -/
  | ended
deriving DecidableEq, Repr, Inhabited

/-- A number as it is written. -/
structure Json.Numeral where
  negative : Bool
  /-- Digits before the point. -/
  whole : List Nat
  /-- Digits behind the point. -/
  fraction : List Nat := []
  exponent : Option (Bool × List Nat) := none
deriving DecidableEq, Repr, Inhabited

inductive Json
  | null
  | bool (b : Bool)
  | number (n : Json.Numeral)
  | string (s : String)
  /-- A text with half of a pair of surrogates: no string, but it can be skipped. -/
  | unpaired
  /-- The items up to the end or a fault between them. -/
  | array (items : List Json) (ending : Option Json.Fault)
  /-- The members up to the end or a fault between them; a key can be unpaired as well. -/
  | object (members : List (Option String × Json)) (ending : Option Json.Fault)
  /-- What is reported depends on whether the value is read or skipped. -/
  | fault (read skipped : Json.Fault)
deriving Repr, Inhabited

end Depot
