import Depot.Digest.Block

/-!
The hash of twenty bytes that repositories announce most often.
-/

namespace Depot.Digest.Sha1

structure State where
  a : UInt32
  b : UInt32
  c : UInt32
  d : UInt32
  e : UInt32

def State.initial : State := ⟨0x67452301, 0xEFCDAB89, 0x98BADCFE, 0x10325476, 0xC3D2E1F0⟩

/-- Adds words to a schedule that holds the newest first. -/
def extend : Nat → List UInt32 → List UInt32
  | 0, ws => ws
  | n + 1, ws =>
      let w := ws.getD 2 0 ^^^ ws.getD 7 0 ^^^ ws.getD 13 0 ^^^ ws.getD 15 0
      extend n (rotate w 1 :: ws)

def schedule (block : List UInt32) : List UInt32 := (extend 64 block.reverse).reverse

def mix (round : Nat) (b c d : UInt32) : UInt32 :=
  if round < 20 then ((b &&& c) ||| (~~~b &&& d)) + 0x5A827999
  else if round < 40 then (b ^^^ c ^^^ d) + 0x6ED9EBA1
  else if round < 60 then ((b &&& c) ||| (b &&& d) ||| (c &&& d)) + 0x8F1BBCDC
  else (b ^^^ c ^^^ d) + 0xCA62C1D6

def State.round (s : State) (w : UInt32 × Nat) : State :=
  ⟨rotate s.a 5 + mix w.2 s.b s.c s.d + s.e + w.1, s.a, rotate s.b 30, s.c, s.d⟩

def State.add (s t : State) : State := ⟨s.a + t.a, s.b + t.b, s.c + t.c, s.d + t.d, s.e + t.e⟩

def State.absorb (s : State) (block : List UInt32) : State :=
  s.add ((schedule block).zipIdx.foldl State.round s)

def digest (data : Bytes) : Bytes :=
  let order := ByteOrder.bigEndian
  let s := (blocks (order.words (order.pad data))).foldl State.absorb .initial
  [s.a, s.b, s.c, s.d, s.e].flatMap order.bytes

end Depot.Digest.Sha1
