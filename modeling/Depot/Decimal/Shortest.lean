/-!
The fewest decimal digits that read back as the same floating point number. A number stands for all
reals that round to it; the shortest decimal among them is next to the number on some decimal grid.
-/

namespace Depot

/-- `digits * 10 ^ exponent`. -/
structure Decimal where
  digits : Nat
  exponent : Int
deriving Repr, DecidableEq

namespace Decimal

/-- The non-negative rational `num / den`. -/
structure Ratio where
  num : Nat
  den : Nat
deriving Repr

def Ratio.le (a b : Ratio) : Bool := a.num * b.den ≤ b.num * a.den

def Ratio.lt (a b : Ratio) : Bool := a.num * b.den < b.num * a.den

/-- `n * base ^ e`. -/
def Ratio.scaled (n base : Nat) : Int → Ratio
  | .ofNat e => ⟨n * Nat.pow base e, 1⟩
  | .negSucc e => ⟨n, Nat.pow base (e + 1)⟩

/-- A finite positive floating point number `mantissa * 2 ^ exponent`. -/
structure Binary where
  mantissa : Nat
  exponent : Int
deriving Repr

namespace Binary

/-- Decodes the bits of a positive number of double precision; infinite ones are none. -/
def ofBits? (bits : UInt64) : Option Binary :=
  let fraction : Nat := bits.toNat % Nat.pow 2 52
  let biased : Nat := bits.toNat / Nat.pow 2 52 % Nat.pow 2 11
  if biased = 2047 then none
  else if biased = 0 then some ⟨fraction, -1074⟩
  else some ⟨fraction + Nat.pow 2 52, (biased : Int) - 1075⟩

def value (b : Binary) : Ratio := .scaled b.mantissa 2 b.exponent

/-- The ends of the interval that rounds to the number. Below a power of two numbers lie closer. -/
def interval (b : Binary) : Ratio × Ratio :=
  let below := if b.mantissa = Nat.pow 2 52 ∧ b.exponent > -1074 then 1 else 2
  (.scaled (4 * b.mantissa - below) 2 (b.exponent - 2),
    .scaled (4 * b.mantissa + 2) 2 (b.exponent - 2))

/-- Whether a decimal rounds to the number; the ends belong to numbers with an even mantissa. -/
def accepts (b : Binary) (r : Ratio) : Bool :=
  let (lo, hi) := b.interval
  if b.mantissa % 2 = 0 then lo.le r && r.le hi else lo.lt r && r.lt hi

end Binary

def value (d : Decimal) : Ratio := .scaled d.digits 10 d.exponent

/-- The exponent of the first digit of a positive rational. -/
def leadingExponent (r : Ratio) : Int :=
  let whole := r.num / r.den
  if whole > 0 then (Nat.toDigits 10 whole).length - 1
  else
    let inverse := (r.den + r.num - 1) / r.num
    Int.negOfNat (Nat.toDigits 10 (inverse - 1)).length

/-- The greatest multiple of the grid that is not above the number. -/
def onGrid (r : Ratio) (e : Int) : Nat :=
  match e with
  | .ofNat e => r.num / (r.den * Nat.pow 10 e)
  | .negSucc e => r.num * Nat.pow 10 (e + 1) / r.den

/-- Of two neighbours on a grid that round to the number the nearer one, and the even one if both
are as near. -/
def nearest? (b : Binary) (e : Int) : Option Decimal :=
  let v := b.value
  let lower : Decimal := ⟨onGrid v e, e⟩
  let upper : Decimal := ⟨lower.digits + 1, e⟩
  match b.accepts lower.value && lower.digits ≠ 0, b.accepts upper.value with
  | true, false => some lower
  | false, true => some upper
  | false, false => none
  | true, true =>
      let middle := Ratio.scaled (2 * lower.digits + 1) 10 e
      let twice : Ratio := ⟨2 * v.num, v.den⟩
      if twice.lt middle then some lower
      else if middle.lt twice then some upper
      else if lower.digits % 2 = 0 then some lower else some upper

/-- Tries grids from the coarsest on. -/
def search (b : Binary) (leading : Int) : Nat → Nat → Decimal
  | 0, n => ⟨onGrid b.value (leading - n), leading - n⟩
  | more + 1, n => (nearest? b (leading - n)).getD (search b leading more (n + 1))

/-- Drops zeros at the end of the digits. -/
def strip : Nat → Decimal → Decimal
  | 0, d => d
  | n + 1, d =>
      if d.digits ≠ 0 ∧ d.digits % 10 = 0 then strip n ⟨d.digits / 10, d.exponent + 1⟩ else d

/-- Seventeen digits are always enough. -/
def shortest (b : Binary) : Decimal :=
  if b.mantissa = 0 then ⟨0, 0⟩ else strip 20 (search b (leadingExponent b.value) 17 0)

end Decimal

end Depot
