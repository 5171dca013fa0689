import Depot.Decimal.Shortest
import Depot.Json
import Depot.Text.Natural

/-!
What a written number amounts to. Whole numbers of 64 bits are exact, all others are floating point
numbers of double precision.
-/

namespace Depot.Json

inductive Amount
  | natural (n : UInt64)
  /-- Less than zero. -/
  | negative (magnitude : Nat)
  | floating (x : Float)

namespace Numeral

/-- Digits that fit into 64 bits, and how many further ones there are. -/
def gather : Nat → List Nat → Nat × Nat
  | n, [] => (n, 0)
  | n, d :: ds =>
      if n * 10 + d < UInt64.size then gather (n * 10 + d) ds else (n, (d :: ds).length)

/-- Digits as a number, as far as they fit into 31 bits. -/
def exponent? (ds : List Nat) : Option Nat :=
  ds.foldlM (fun n d => if n * 10 + d < Nat.pow 2 31 then some (n * 10 + d) else none) 0

/-- Saturates at the bounds of 32 bits. -/
def clamp (e : Int) : Int := max (-(Int.pow 2 31)) (min e (Int.pow 2 31 - 1))

def power (e : Nat) : Float := Float.ofScientific 1 false e

/-- Divides by powers of ten in steps that have a double; the count bounds the steps. -/
def shrink : Nat → Float → Nat → Float
  | 0, x, _ => x
  | steps + 1, x, e => if e ≤ 308 then x / power e else
      if x == 0 then x else shrink steps (x / power 308) (e - 308)

/-- `n * 10 ^ e`, unless it is too large. -/
def scale? (n : Nat) (e : Int) : Option Float :=
  let x := (UInt64.ofNat n).toFloat
  match e with
  | .ofNat e =>
      if e ≤ 308 then
        let y := x * power e
        if y.isInf then none else some y
      else if n = 0 then some x else none
  | .negSucc e => some (shrink 8 x (e + 1))

/-- The number without its sign, scaled by what the exponent and the places say. -/
def magnitude? (n : Numeral) : Option Float :=
  let (significand, dropped) := gather 0 n.whole
  let (significand, unused) := gather significand n.fraction
  let places : Int := (dropped : Int) - ((n.fraction.length - unused : Nat) : Int)
  match n.exponent with
  | none => scale? significand places
  | some (negative, ds) =>
      match exponent? ds with
      | some e => scale? significand (clamp (if negative then places - e else places + e))
      | none => if significand = 0 ∨ negative then some 0 else none

/-- Nothing if the number is out of range. -/
def amount? (n : Numeral) : Option Amount :=
  let (whole, dropped) := gather 0 n.whole
  if n.fraction.isEmpty && n.exponent.isNone && dropped == 0 then
    if !n.negative then some (.natural (UInt64.ofNat whole))
    else if 0 < whole ∧ whole ≤ Nat.pow 2 63 then some (.negative whole)
    else some (.floating (-(UInt64.ofNat whole).toFloat))
  else n.magnitude?.map fun x => .floating (if n.negative then -x else x)

end Numeral

namespace Amount

/-- Digits with a point, at least one of them behind it; very large and small numbers have an
exponent with a sign and at least two digits. -/
def floatText (x : Float) : String :=
  let sign := if x < 0 || x.toBits >>> 63 == 1 then "-" else ""
  match Decimal.Binary.ofBits? (x.abs.toBits) with
  | none => sign
  | some b =>
      let d := Decimal.shortest b
      let digits := Nat.toDigits 10 d.digits
      let point := d.exponent + digits.length
      let body : List Char :=
        if d.digits = 0 then "0.0".toList
        else if 0 ≤ d.exponent ∧ point ≤ 16 then
          digits ++ List.replicate d.exponent.toNat '0' ++ ".0".toList
        else if 0 < point ∧ point ≤ 16 then
          digits.take point.toNat ++ '.' :: digits.drop point.toNat
        else if -5 < point ∧ point ≤ 0 then
          "0.".toList ++ List.replicate (-point).toNat '0' ++ digits
        else
          let e := point - 1
          let mark := if e < 0 then '-' else '+'
          let power := Nat.toDigits 10 e.natAbs
          let power := if power.length < 2 then '0' :: power else power
          let fraction := if digits.length ≤ 1 then [] else '.' :: digits.drop 1
          digits.take 1 ++ fraction ++ 'e' :: mark :: power
      sign ++ String.ofList body

def describe : Amount → String
  | natural n => "integer \x60" ++ Text.Natural.write n.toNat ++ "\x60"
  | negative n => "integer \x60-" ++ Text.Natural.write n ++ "\x60"
  | floating x => "floating point \x60" ++ floatText x ++ "\x60"

end Amount

end Depot.Json
