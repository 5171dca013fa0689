import Depot.Text.Utf8

/-!
What hashes over 64-byte blocks share: words of four bytes in either order, the padding that ends
with the bit length, and the rotation of a word.
-/

namespace Depot.Digest

inductive ByteOrder
  | bigEndian
  | littleEndian

namespace ByteOrder

def word (order : ByteOrder) (a b c d : UInt8) : UInt32 :=
  match order with
  | bigEndian =>
      (a.toUInt32 <<< 24) ||| (b.toUInt32 <<< 16) ||| (c.toUInt32 <<< 8) ||| d.toUInt32
  | littleEndian =>
      (d.toUInt32 <<< 24) ||| (c.toUInt32 <<< 16) ||| (b.toUInt32 <<< 8) ||| a.toUInt32

def words (order : ByteOrder) : Bytes → List UInt32
  | a :: b :: c :: d :: rest => order.word a b c d :: words order rest
  | _ => []

def bytes (order : ByteOrder) (w : UInt32) : Bytes :=
  let big := [(w >>> 24).toUInt8, (w >>> 16).toUInt8, (w >>> 8).toUInt8, w.toUInt8]
  match order with
  | bigEndian => big
  | littleEndian => big.reverse

/-- The length in bits, in eight bytes. -/
def bitLength (order : ByteOrder) (size : Nat) : Bytes :=
  let hi := order.bytes (UInt32.ofNat (size * 8 / Nat.pow 2 32))
  let lo := order.bytes (UInt32.ofNat (size * 8))
  match order with
  | bigEndian => hi ++ lo
  | littleEndian => lo ++ hi

/-- A one bit, zeros up to eight bytes before the end of a block, and the length. -/
def pad (order : ByteOrder) (data : Bytes) : Bytes :=
  data ++ 0x80 :: List.replicate ((119 - data.length % 64) % 64) 0 ++ order.bitLength data.length

end ByteOrder

def rotate (w : UInt32) (n : UInt32) : UInt32 := (w <<< n) ||| (w >>> (32 - n))

/-- Consecutive groups of sixteen words; what is left over is no block. -/
def blocks (ws : List UInt32) : List (List UInt32) :=
  if ws.length < 16 then [] else ws.take 16 :: blocks (ws.drop 16)
termination_by ws.length
decreasing_by simp only [List.length_drop]; omega

end Depot.Digest
