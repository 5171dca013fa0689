import Depot.Text.Utf8

/-!
Bytes in the alphabet of 64 letters, three bytes to four letters, filled up with equals signs.
-/

namespace Depot.Digest.Base64

def alphabet : List Char :=
  "ABCDEFGHIJKLMNOPQRSTUVWXYZabcdefghijklmnopqrstuvwxyz0123456789+/".toList

def letter (n : Nat) : Char := alphabet.getD (n % 64) 'A'

/-- Each group of bytes is read as one number and written in four letters, highest first. -/
def letters : Bytes → List Char
  | [] => []
  | [a] =>
      let n := a.toNat * 16
      [letter (n / 64), letter n, '=', '=']
  | [a, b] =>
      let n := (a.toNat * 256 + b.toNat) * 4
      [letter (n / 4096), letter (n / 64), letter n, '=']
  | a :: b :: c :: rest =>
      let n := (a.toNat * 256 + b.toNat) * 256 + c.toNat
      letter (n / 262144) :: letter (n / 4096) :: letter (n / 64) :: letter n :: letters rest

def write (bytes : Bytes) : String := String.ofList (letters bytes)

end Depot.Digest.Base64
