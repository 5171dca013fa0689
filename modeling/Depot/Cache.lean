/-!
Values that are computed once for each key and kept from then on.
-/

namespace Depot

/-- Keys with their values, in the order in which they were computed. -/
abbrev Cache (κ α : Type) := List (κ × α)

namespace Cache

variable {κ α : Type} [BEq κ]

def get? (c : Cache κ α) (key : κ) : Option α := c.lookup key

/-- Keeps the value that a key has already. -/
def put (c : Cache κ α) (key : κ) (value : α) : Cache κ α :=
  match c.get? key with
  | some _ => c
  | none => c ++ [(key, value)]

def size (c : Cache κ α) : Nat := c.length

end Cache

end Depot
