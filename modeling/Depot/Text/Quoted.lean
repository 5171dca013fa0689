import Depot.Text.Graphic
import Depot.Text.Utf8

/-!
Text between double quotes, with everything escaped that would not show as itself.
-/

namespace Depot.Text.Quoted

/-- Lower case hexadecimal digits without leading zeros. -/
def hexDigits (n : Nat) : List Char := Nat.toDigits 16 n

def escape (c : Char) : List Char :=
  match c with
  | '\x00' => ['\\', '0']
  | '\t' => ['\\', 't']
  | '\n' => ['\\', 'n']
  | '\r' => ['\\', 'r']
  | '"' => ['\\', '"']
  | '\\' => ['\\', '\\']
  | c =>
      if isGraphic c then [c]
      else "\\u\x7b".toList ++ hexDigits c.toNat ++ ['\x7d']

def write (s : String) : String :=
  String.ofList ('"' :: s.toList.flatMap escape ++ ['"'])

def escapeByte (b : UInt8) : List Char :=
  ['\\', 'x', (Nat.digitChar (b.toNat / 16)).toUpper, (Nat.digitChar (b.toNat % 16)).toUpper]

/-- Bytes that need not be text. -/
def writeBytes (bytes : Bytes) : String :=
  let escaped := (Utf8.piecesFrom none bytes).flatMap fun
    | .inl c => escape c
    | .inr run => run.flatMap escapeByte
  String.ofList ('"' :: escaped ++ ['"'])

end Depot.Text.Quoted
