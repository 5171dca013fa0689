import Depot.Text.Digit
import Depot.Text.Natural
import Depot.Text.Split

/-!
Numeric hosts. An address of the old kind has one to four numbers in decimal, octal or hexadecimal,
the last of which fills all that is left; one of the new kind has eight pieces, a run of zeros among
them may be left out, and the last two may be written in the old way.
-/

namespace Depot.Url

open Text

structure Ipv4 where
  bits : UInt32
deriving DecidableEq, Repr, Inhabited

namespace Ipv4

def octet (a : Ipv4) (k : Nat) : Nat := a.bits.toNat / Nat.pow 256 (3 - k) % 256

def text (a : Ipv4) : String :=
  ".".intercalate ([0, 1, 2, 3].map fun k => Natural.write (a.octet k))

def isUnspecified (a : Ipv4) : Bool := a.bits == 0

def isBroadcast (a : Ipv4) : Bool := a.bits == 0xFFFFFFFF

def isLoopback (a : Ipv4) : Bool := a.octet 0 == 127

def isLinkLocal (a : Ipv4) : Bool := a.octet 0 == 169 && a.octet 1 == 254

/-- A number of any size in the base that its beginning tells. -/
def number? (s : List Char) : Option Nat :=
  let read (base : Nat) (s : List Char) : Option Nat :=
    s.foldlM (fun n c => do
      let d ← hexValue? c
      guard (d < base)
      return n * base + d) 0
  match s with
  | [] => none
  | '0' :: 'x' :: rest | '0' :: 'X' :: rest => read 16 rest
  | '0' :: c :: rest => read 8 (c :: rest)
  | s => read 10 s

/-- The parts between dots, without an empty one at the end. -/
def parts (s : List Char) : List (List Char) :=
  let all := splitAll '.' s
  if all.getLast? == some [] then all.dropLast else all

/-- A host whose last part is a number is an address or nothing. -/
def endsInNumber (s : List Char) : Bool :=
  match (splitAll '.' s).reverse with
  | [] :: last :: _ => isNumber last
  | [[]] => false
  | last :: _ => isNumber last
  | [] => false
where
  isNumber (part : List Char) : Bool :=
    (!part.isEmpty && part.all fun c => (digitValue? c).isSome) || (number? part).isSome

def parse? (s : List Char) : Option Ipv4 := do
  let parts := parts s
  guard (parts.length ≤ 4)
  let numbers ← parts.mapM number?
  let last ← numbers.getLast?
  let front := numbers.dropLast
  guard (front.all (· < 256) && last < Nat.pow 256 (4 - front.length))
  let high := front.foldl (fun n k => n * 256 + k) 0
  return ⟨UInt32.ofNat (high * Nat.pow 256 (4 - front.length) + last)⟩

end Ipv4

structure Ipv6 where
  /-- Eight pieces of 16 bits. -/
  pieces : List Nat
deriving DecidableEq, Repr, Inhabited

namespace Ipv6

def isUnspecified (a : Ipv6) : Bool := a.pieces == [0, 0, 0, 0, 0, 0, 0, 0]

def isLoopback (a : Ipv6) : Bool := a.pieces == [0, 0, 0, 0, 0, 0, 0, 1]

/-- The ten bits fe80 at the beginning. -/
def isLinkLocal (a : Ipv6) : Bool := a.pieces.headD 0 / 64 == 0xFE80 / 64

/-- The address of the old kind that this one stands for. -/
def mapped? (a : Ipv6) : Option Ipv4 :=
  match a.pieces with
  | [0, 0, 0, 0, 0, 0xFFFF, hi, lo] => some ⟨UInt32.ofNat (hi * 65536 + lo)⟩
  | _ => none

/-- Where the first longest run of zeros begins, and how long it is. -/
def longestZeros (pieces : List Nat) : Nat × Nat :=
  let run (k : Nat) : Nat := ((pieces.drop k).takeWhile (· == 0)).length
  (List.range pieces.length).foldl (fun (start, size) k =>
    if size < run k then (k, run k) else (start, size)) (0, 0)

def pieceText (n : Nat) : String := String.ofList (Nat.toDigits 16 n)

/-- At least two zeros are left out. -/
def text (a : Ipv6) : String :=
  let (start, size) := longestZeros a.pieces
  let join (pieces : List Nat) : String := ":".intercalate (pieces.map pieceText)
  if size < 2 then join a.pieces
  else join (a.pieces.take start) ++ "::" ++ join (a.pieces.drop (start + size))

/-- One to four hexadecimal digits. -/
def piece? (s : List Char) : Option Nat :=
  if s.isEmpty ∨ s.length > 4 then none
  else s.foldlM (fun n c => (hexValue? c).map fun d => n * 16 + d) 0

/-- One to three decimal digits without a superfluous zero. -/
def octet? (s : List Char) : Option Nat := do
  guard (s.length ≤ 3 && !(s.length > 1 && s.head? == some '0'))
  let n ← (Natural.read 256 s).toOption
  guard (s.head? != some '+')
  return n

/-- Four octets between dots as two pieces. -/
def dotted? (s : List Char) : Option (List Nat) := do
  let octets ← (splitAll '.' s).mapM octet?
  match octets with
  | [a, b, c, d] => return [a * 256 + b, c * 256 + d]
  | _ => none

/-- Pieces between colons; only the last may be dotted. -/
def pieces? : List (List Char) → Option (List Nat)
  | [] => some []
  | [last] => if last.contains '.' then dotted? last else (piece? last).map ([·])
  | part :: parts => do
      let n ← piece? part
      let more ← pieces? parts
      return n :: more

/-- Splits at the first two colons in a row. -/
def splitGap : List Char → Option (List Char × List Char)
  | ':' :: ':' :: rest => some ([], rest)
  | c :: rest => (splitGap rest).map fun (before, after) => (c :: before, after)
  | [] => none

def side? (s : List Char) : Option (List Nat) :=
  if s.isEmpty then some [] else pieces? (splitAll ':' s)

def parse? (s : List Char) : Option Ipv6 :=
  match splitGap s with
  | none => do
      let pieces ← pieces? (splitAll ':' s)
      guard (pieces.length == 8)
      return ⟨pieces⟩
  | some (before, after) => do
      guard (!before.contains '.')
      let front ← side? before
      let back ← side? after
      guard (front.length + back.length ≤ 7)
      return ⟨front ++ List.replicate (8 - front.length - back.length) 0 ++ back⟩

end Ipv6

end Depot.Url
