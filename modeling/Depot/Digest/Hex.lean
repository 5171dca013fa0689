import Depot.Text.Digit
import Depot.Text.Utf8

/-!
Bytes as pairs of hexadecimal digits: written in lower case, read in either case.
-/

namespace Depot.Digest.Hex

open Text

def digit (n : Nat) : Char := (n % 16).digitChar

def write (bytes : Bytes) : String :=
  String.ofList (bytes.flatMap fun b => [digit (b.toNat / 16), digit b.toNat])

def readPairs? : List Char → Option Bytes
  | [] => some []
  | hi :: lo :: rest => do
      let hi ← hexValue? hi
      let lo ← hexValue? lo
      let bytes ← readPairs? rest
      return UInt8.ofNat (hi * 16 + lo) :: bytes
  | [_] => none

/-- Reads exactly `size` bytes. -/
def read? (size : Nat) (s : List Char) : Option Bytes :=
  (readPairs? s).filter fun bytes => bytes.length == size

end Depot.Digest.Hex
