import Depot.Text.Split

/-!
Text as letters, digits and hyphens of ASCII. The characters of ASCII come first; all others are
written in ascending order as the number of positions to go on from the one before, in digits whose
weights adapt to the numbers written so far.
-/

namespace Depot.Url.Punycode

open Text

def digitChar (d : Nat) : Char := Char.ofNat (if d < 26 then 0x61 + d else 0x30 + (d - 26))

def digit? (c : Char) : Option Nat :=
  if 'a' ≤ c ∧ c ≤ 'z' then some (c.toNat - 0x61)
  else if '0' ≤ c ∧ c ≤ '9' then some (c.toNat - 0x30 + 26)
  else none

/-- A digit below its threshold is the last one of a number. -/
def threshold (position bias : Nat) : Nat := min 26 (max 1 (position - bias))

theorem threshold_pos (position bias : Nat) : 1 ≤ threshold position bias := by
  unfold threshold
  omega

/-- How far thresholds have to move for numbers of this size. -/
def bias (delta : Nat) : Nat :=
  if 455 < delta then 36 + bias (delta / 35) else 36 * delta / (delta + 38)
termination_by delta
decreasing_by omega

/-- The bias after a number, which is the first one or not, with the count of characters so far. -/
def adapt (delta count : Nat) (first : Bool) : Nat :=
  let delta := if first then delta / 700 else delta / 2
  bias (delta + delta / count)

def firstBias : Nat := 72

/-- The code of the first character beyond ASCII. -/
def firstCode : Nat := 0x80

/-- The digits of a number from this position on. -/
def digits (bias position n : Nat) : List Char :=
  let t := threshold position bias
  if n < t then [digitChar n]
  else digitChar (t + (n - t) % (36 - t)) :: digits bias (position + 36) ((n - t) / (36 - t))
termination_by n
decreasing_by
  have := threshold_pos position bias
  have := Nat.div_le_self (n - threshold position bias) (36 - threshold position bias)
  omega

structure Encoder where
  delta : Nat := 0
  bias : Nat := firstBias
  /-- Characters that have been written. -/
  count : Nat
  isFirst : Bool := true
  output : List Char := []

/-- Passes over a character on the way to those with this code, or writes it. -/
def Encoder.pass (code : Nat) (e : Encoder) (c : Char) : Encoder :=
  if c.toNat < code then { e with delta := e.delta + 1 }
  else if c.toNat = code then
    { delta := 0, bias := adapt e.delta (e.count + 1) e.isFirst, count := e.count + 1,
      isFirst := false, output := e.output ++ digits e.bias 36 e.delta }
  else e

/-- Writes the characters with these codes, which ascend from the number on. -/
def Encoder.write (s : List Char) (e : Encoder) : Nat → List Nat → Encoder
  | _, [] => e
  | code, next :: rest =>
      let e := { e with delta := e.delta + (next - code) * (e.count + 1) }
      let e := s.foldl (Encoder.pass next) e
      write s { e with delta := e.delta + 1 } (next + 1) rest

def encode (s : List Char) : List Char :=
  let basic := s.filter fun c => c.toNat < firstCode
  let codes := (((s.map Char.toNat).filter (firstCode ≤ ·)).mergeSort (· ≤ ·)).eraseDups
  let e := Encoder.write s { count := basic.length } firstCode codes
  if basic.isEmpty then e.output else basic ++ '-' :: e.output

structure Decoder where
  code : Nat := firstCode
  bias : Nat := firstBias
  /-- Where the next character goes if its number is zero. -/
  index : Nat := 0
  isFirst : Bool := true
  /-- What has been read of a number. -/
  delta : Nat := 0
  weight : Nat := 1
  position : Nat := 36
  output : List Char

/-- The character with this code, which has to be one. -/
def char? (code : Nat) : Option Char :=
  if code.isValidChar then some (Char.ofNat code) else none

/-- Takes up a digit; the last one of a number puts a character into its place. -/
def Decoder.add (d : Decoder) (c : Char) : Option Decoder := do
  let digit ← digit? c
  let delta := d.delta + digit * d.weight
  let t := threshold d.position d.bias
  if t ≤ digit then
    return { d with delta, weight := d.weight * (36 - t), position := d.position + 36 }
  let count := d.output.length + 1
  let place := d.index + delta
  let code := d.code + place / count
  let c ← char? code
  return { code, bias := adapt delta count d.isFirst, index := place % count + 1, isFirst := false,
           output := d.output.insertIdx (place % count) c }

/-- Reads text in small letters, if it ends with a whole number. -/
def decode? (s : List Char) : Option (List Char) := do
  let (basic, rest) := match splitLast '-' s with
    | some (c :: basic, rest) => (c :: basic, rest)
    | _ => ([], s)
  let d ← rest.foldlM Decoder.add { output := basic }
  if d.position = 36 then some d.output else none

end Depot.Url.Punycode
