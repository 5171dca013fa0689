import Depot.Markup.Declaration
import Depot.Text.Utf8

/-!
From the bytes of a document to its characters. A byte order mark decides first, then the encoding
that the document declares. Decoding ends before the first byte that the encoding does not allow:
what follows can not be read, whatever it is.
-/

namespace Depot.Markup

open Text

inductive Encoding
  | utf8
  | latin
  | ascii
  | wide (order : Bool)
deriving DecidableEq, Repr

namespace Encoding

/-- Units of two bytes, the high one first if so ordered; surrogates have to come in pairs. -/
def wideChars (highFirst : Bool) : Bytes → List Char
  | a :: b :: rest =>
      let unit (x y : UInt8) : Nat :=
        if highFirst then x.toNat * 256 + y.toNat else y.toNat * 256 + x.toNat
      let u := unit a b
      if 0xD800 ≤ u ∧ u < 0xDC00 then
        match rest with
        | c :: d :: rest =>
            let v := unit c d
            if 0xDC00 ≤ v ∧ v < 0xE000 then
              Char.ofNat (0x10000 + (u - 0xD800) * 0x400 + (v - 0xDC00)) :: wideChars highFirst rest
            else []
        | _ => []
      else if 0xDC00 ≤ u ∧ u < 0xE000 then []
      else Char.ofNat u :: wideChars highFirst rest
  | _ => []

def decode : Encoding → Bytes → List Char
  | utf8, bytes => Utf8.decodeStart bytes
  | latin, bytes => bytes.map fun b => Char.ofNat b.toNat
  | ascii, bytes => (bytes.takeWhile (· < 128)).map fun b => Char.ofNat b.toNat
  | wide highFirst, bytes => wideChars highFirst bytes

/-- The encoding that a byte order mark shows, and what follows the mark. -/
def ofMark? : Bytes → Option (Encoding × Bytes)
  | 0xEF :: 0xBB :: 0xBF :: rest => some (utf8, rest)
  | 0xFE :: 0xFF :: rest => some (wide true, rest)
  | 0xFF :: 0xFE :: rest => some (wide false, rest)
  | _ => none

/-- Whether a document whose mark shows this encoding may declare that name. -/
def agrees (marked : Encoding) (name : List Char) : Bool :=
  let name := String.ofList (name.map Char.toLower)
  match marked with
  | utf8 => name == "utf-8" || name == "utf8"
  | wide _ => name == "utf-16" || name == "utf16"
  | _ => false

/-- The encoding of a declared name, for documents without a mark. -/
def ofName? (name : List Char) : Option Encoding :=
  match String.ofList (name.map Char.toLower) with
  | "utf-8" | "utf8" => some utf8
  | "iso-8859-1" | "latin1" => some latin
  | "ascii" | "us-ascii" => some ascii
  | _ => none

/-- The characters of a document; none if mark and declaration do not go together. -/
def read (bytes : Bytes) : List Char :=
  match ofMark? bytes with
  | some (marked, rest) =>
      let chars := marked.decode rest
      match (Declaration.ofDocument? chars).bind (·.encoding) with
      | some name => if marked.agrees name then chars else []
      | none => chars
  | none =>
      let chars := utf8.decode bytes
      match (Declaration.ofDocument? chars).bind (·.encoding) with
      | some name =>
          match ofName? name with
          | some declared => declared.decode bytes
          | none => []
      | none => chars

end Encoding

end Depot.Markup
