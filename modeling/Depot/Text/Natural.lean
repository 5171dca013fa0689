import Depot.Text.Digit

/-!
Natural numbers as text: the shortest decimal form, and a reader with an upper bound.
-/

namespace Depot.Text.Natural

/-- Decimal digits without leading zeros. -/
def write (n : Nat) : String := String.ofList (Nat.toDigits 10 n)

/-- Why a text is no number, or none in range. -/
inductive Fault
  | empty
  | invalidDigit
  | tooLarge
deriving DecidableEq, Repr

def Fault.message : Fault → String
  | .empty => "cannot parse integer from empty string"
  | .invalidDigit => "invalid digit found in string"
  | .tooLarge => "number too large to fit in target type"

/-- Continues a number with digits. The first character at fault decides: one that is no digit,
or the one that takes the number out of range. -/
def continue? (bound : Nat) : Nat → List Char → Except Fault Nat
  | n, [] => .ok n
  | n, c :: rest =>
      match digitValue? c with
      | none => .error .invalidDigit
      | some d => if n * 10 + d < bound then continue? bound (n * 10 + d) rest else .error .tooLarge

/-- A number below `bound`. Leading zeros and one plus sign before a digit are accepted. -/
def read (bound : Nat) : List Char → Except Fault Nat
  | [] => .error .empty
  | ['+'] => .error .invalidDigit
  | '+' :: c :: rest => continue? bound 0 (c :: rest)
  | s => continue? bound 0 s

end Depot.Text.Natural
