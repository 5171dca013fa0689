import Depot.Text.Digit
import Depot.Text.Utf8

/-!
Percent encoding: bytes that can not stand in a part of a URL as two hexadecimal digits.
-/

namespace Depot.Url.Percent

open Text

/-- Which of the printable characters below 127 are encoded. All other bytes always are, the digits
and letters never. -/
abbrev Escaped := List Char

def fragment : Escaped := " \"<>\x60".toList

def path : Escaped := fragment ++ "#?\x7b\x7d^|".toList

def userinfo : Escaped := path ++ "/:;=@[\\]".toList

def query : Escaped := " \"#<>".toList

def specialQuery : Escaped := '\'' :: query

/-- Only controls and what is not ASCII. -/
def controls : Escaped := []

def digit (n : Nat) : Char := (Nat.digitChar n).toUpper

def escape (b : UInt8) : List Char := ['%', digit (b.toNat / 16), digit (b.toNat % 16)]

def encodeChar (escaped : Escaped) (c : Char) : List Char :=
  if c.toNat < 0x20 ∨ 0x7F ≤ c.toNat ∨ c ∈ escaped then (String.utf8EncodeChar c).flatMap escape
  else [c]

def encode (escaped : Escaped) (s : List Char) : List Char := s.flatMap (encodeChar escaped)

/-- Reads escapes; a percent sign without two digits stands for itself. -/
def decodeBytes : Bytes → Bytes
  | [] => []
  | 0x25 :: hi :: lo :: rest =>
      match hexValue? (Char.ofNat hi.toNat), hexValue? (Char.ofNat lo.toNat) with
      | some h, some l => UInt8.ofNat (h * 16 + l) :: decodeBytes rest
      | _, _ => 0x25 :: decodeBytes (hi :: lo :: rest)
  | b :: rest => b :: decodeBytes rest

def decode (s : List Char) : Bytes := decodeBytes (Utf8.encode (String.ofList s))

end Depot.Url.Percent
