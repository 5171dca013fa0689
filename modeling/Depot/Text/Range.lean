/-!
Sets of characters as runs of codes. All tables of characters are those of version 17 of Unicode.
-/

namespace Depot.Text

/-- First and last code of each run. -/
abbrev Ranges := List (Nat × Nat)

def Ranges.contains (ranges : Ranges) (c : Char) : Bool :=
  ranges.any fun (first, last) => first ≤ c.toNat && c.toNat ≤ last

end Depot.Text
