import Depot.Json
import Depot.Text.Digit

/-!
Reading values off a text.
-/

namespace Depot.Json

open Text

/-- A value and the text behind it. Behind a fault nothing is read. -/
abbrev Step := Json × List Char

def failed (f : Fault) : Step := (.fault f f, [])

def isSpace (c : Char) : Bool := c == ' ' || c == '\n' || c == '\t' || c == '\r'

def skipSpace (s : List Char) : List Char := s.dropWhile isSpace

/-- The rest of a word. -/
def word (value : Json) : List Char → List Char → Step
  | [], s => (value, s)
  | _ :: _, [] => failed .ended
  | w :: more, c :: s => if c = w then word value more s else failed .malformed

/-- Digits at the beginning, and what follows. -/
def digits (s : List Char) : List Nat × List Char :=
  let ds := s.takeWhile fun c => (digitValue? c).isSome
  (ds.filterMap digitValue?, s.drop ds.length)

/-- Where a digit has to be: at the end of the text it depends on how the value is taken. -/
def noDigit : List Char → Step
  | [] => (.fault .ended .malformed, [])
  | _ :: _ => failed .malformed

def exponentPart (n : Numeral) (s : List Char) : Step :=
  let (negative, s) := match s with
    | '-' :: s => (true, s)
    | '+' :: s => (false, s)
    | s => (false, s)
  match digits s with
  | ([], s) => noDigit s
  | (ds, s) => (.number { n with exponent := some (negative, ds) }, s)

def fractionPart (n : Numeral) (s : List Char) : Step :=
  match digits s with
  | ([], s) => noDigit s
  | (ds, s) =>
      let n := { n with fraction := ds }
      match s with
      | 'e' :: s | 'E' :: s => exponentPart n s
      | s => (.number n, s)

/-- A number after its sign. No zero precedes other digits. -/
def numeral (negative : Bool) (s : List Char) : Step :=
  match digits s with
  | ([], s) => noDigit s
  | (0 :: _ :: _, _) => failed .malformed
  | (ds, s) =>
      let n : Numeral := { negative, whole := ds }
      match s with
      | '.' :: s => fractionPart n s
      | 'e' :: s | 'E' :: s => exponentPart n s
      | s => (.number n, s)

/-- One piece of a string: what it adds, what follows, and whether it is half a pair. -/
inductive Piece
  | closing (rest : List Char)
  | char (c : Char) (rest : List Char)
  | half (rest : List Char)
  | fault (read skipped : Fault)

def simpleEscape? : Char → Option Char
  | '"' => some '"'
  | '\\' => some '\\'
  | '/' => some '/'
  | 'b' => some '\x08'
  | 'f' => some '\x0c'
  | 'n' => some '\n'
  | 'r' => some '\r'
  | 't' => some '\t'
  | _ => none

/-- Four hexadecimal digits. The text is over if less than four bytes are left. -/
def unit (s : List Char) : Except Fault (Nat × List Char) :=
  match s with
  | a :: b :: c :: d :: rest =>
      match hexValue? a, hexValue? b, hexValue? c, hexValue? d with
      | some a, some b, some c, some d => .ok (((a * 16 + b) * 16 + c) * 16 + d, rest)
      | _, _, _, _ => .error .malformed
  | s => if (String.ofList s).utf8ByteSize < 4 then .error .ended else .error .malformed

/-- The character that a number of 16 bits stands for, possibly with a second such number. -/
def unicodeEscape (s : List Char) : Piece :=
  match unit s with
  | .error f => .fault f f
  | .ok (u, rest) =>
      if 0xDC00 ≤ u ∧ u < 0xE000 then .half rest
      else if 0xD800 ≤ u ∧ u < 0xDC00 then
        match rest with
        | '\\' :: 'u' :: low =>
            match unit low with
            | .ok (v, low) =>
                if 0xDC00 ≤ v ∧ v < 0xE000 then
                  .char (Char.ofNat (0x10000 + (u - 0xD800) * 0x400 + (v - 0xDC00))) low
                else .half rest
            | .error f => .fault f f
        | [] | ['\\'] => .fault .ended .ended
        | _ => .half rest
      else .char (Char.ofNat u) rest

def piece : List Char → Piece
  | [] => .fault .ended .ended
  | '"' :: rest => .closing rest
  | '\\' :: [] => .fault .ended .ended
  | '\\' :: 'u' :: rest => unicodeEscape rest
  | '\\' :: c :: rest =>
      match simpleEscape? c with
      | some c => .char c rest
      | none => .fault .malformed .malformed
  | c :: rest => if c.toNat < 0x20 then .fault .malformed .malformed else .char c rest

/-- The outcome of reading a string: its text, none if it has half a pair, or a fault. -/
abbrev Word := Except (Fault × Fault) (Option (List Char) × List Char)

/-- A string after its opening quote. -/
def stringFrom : Nat → List Char → Word
  | 0, _ => .error (.ended, .ended)
  | steps + 1, s =>
      match piece s with
      | .closing rest => .ok (some [], rest)
      | .char c rest => (stringFrom steps rest).map fun (text, rest) => (text.map (c :: ·), rest)
      | .half rest =>
          match stringFrom steps rest with
          | .ok (_, rest) => .ok (none, rest)
          | .error (_, skipped) => .error (.malformed, skipped)
      | .fault read skipped => .error (read, skipped)

def stringOf (s : List Char) : Word := stringFrom (s.length + 1) s

mutual

/-- A value; the number bounds how deep values lie in each other and how many follow each other. -/
def value : Nat → List Char → Step
  | 0, _ => failed .ended
  | steps + 1, s =>
      match skipSpace s with
      | [] => failed .ended
      | 'n' :: s => word .null "ull".toList s
      | 't' :: s => word (.bool true) "rue".toList s
      | 'f' :: s => word (.bool false) "alse".toList s
      | '-' :: s => numeral true s
      | '"' :: s =>
          match stringOf s with
          | .ok (some text, rest) => (.string (String.ofList text), rest)
          | .ok (none, rest) => (.unpaired, rest)
          | .error (read, skipped) => (.fault read skipped, [])
      | '[' :: s =>
          match skipSpace s with
          | [] => (.array [] (some .ended), [])
          | ']' :: s => (.array [] none, s)
          | s =>
              let (items, ending, rest) := items steps s
              (.array items ending, rest)
      | '{' :: s =>
          match skipSpace s with
          | [] => (.object [] (some .ended), [])
          | '}' :: s => (.object [] none, s)
          | s =>
              let (members, ending, rest) := members steps s
              (.object members ending, rest)
      | c :: s => if (digitValue? c).isSome then numeral false (c :: s) else failed .malformed

/-- Items from the next one on. -/
def items : Nat → List Char → List Json × Option Fault × List Char
  | 0, _ => ([], some .ended, [])
  | steps + 1, s =>
      match value steps s with
      | (.fault read skipped, _) => ([.fault read skipped], some read, [])
      | (item, rest) =>
          match skipSpace rest with
          | [] => ([item], some .ended, [])
          | ',' :: rest =>
              let (more, ending, rest) := items steps rest
              (item :: more, ending, rest)
          | ']' :: rest => ([item], none, rest)
          | _ :: _ => ([item], some .malformed, [])

/-- Members from the next one on. -/
def members : Nat → List Char → List (Option String × Json) × Option Fault × List Char
  | 0, _ => ([], some .ended, [])
  | steps + 1, s =>
      match skipSpace s with
      | [] => ([], some .ended, [])
      | '"' :: s =>
          match stringOf s with
          | .error (read, skipped) =>
              let key := if read = skipped then some "" else none
              ([(key, .fault read skipped)], some read, [])
          | .ok (key, rest) =>
              let key := key.map String.ofList
              match skipSpace rest with
              | [] => ([(key, .fault .ended .ended)], some .ended, [])
              | ':' :: rest =>
                  match value steps rest with
                  | (.fault read skipped, _) => ([(key, .fault read skipped)], some read, [])
                  | (item, rest) =>
                      match skipSpace rest with
                      | [] => ([(key, item)], some .ended, [])
                      | ',' :: rest =>
                          let (more, ending, rest) := members steps rest
                          ((key, item) :: more, ending, rest)
                      | '}' :: rest => ([(key, item)], none, rest)
                      | _ :: _ => ([(key, item)], some .malformed, [])
              | _ :: _ => ([(key, .fault .malformed .malformed)], some .malformed, [])
      | _ :: _ => ([], some .malformed, [])

end

/-- The value of a text, and whether anything but white space follows it. -/
def ofChars (s : List Char) : Json × Bool :=
  let (value, rest) := value (2 * s.length + 2) s
  (value, !(skipSpace rest).isEmpty)

end Depot.Json
