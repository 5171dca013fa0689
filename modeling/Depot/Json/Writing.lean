import Depot.Json
import Depot.Text.Natural

/-!
Values as text without white space. Characters are written as themselves, but for quotes,
backslashes and controls.
-/

namespace Depot.Json

def escape (c : Char) : List Char :=
  match c with
  | '"' => ['\\', '"']
  | '\\' => ['\\', '\\']
  | '\x08' => ['\\', 'b']
  | '\x0c' => ['\\', 'f']
  | '\n' => ['\\', 'n']
  | '\r' => ['\\', 'r']
  | '\t' => ['\\', 't']
  | c =>
      if c.toNat < 0x20 then
        ['\\', 'u', '0', '0', Nat.digitChar (c.toNat / 16), Nat.digitChar (c.toNat % 16)]
      else [c]

def quote (s : String) : String := String.ofList ('"' :: s.toList.flatMap escape ++ ['"'])

/-- A value to be written. -/
inductive Output
  | null
  | natural (n : Nat)
  | string (s : String)
  | array (items : List Output)
  | object (members : List (String × Output))

namespace Output

def option (f : α → Output) : Option α → Output
  | none => .null
  | some a => f a

mutual

def write : Output → String
  | null => "null"
  | natural n => Text.Natural.write n
  | string s => quote s
  | array items => "[" ++ ",".intercalate (writeItems items) ++ "]"
  | object members => "\x7b" ++ ",".intercalate (writeMembers members) ++ "\x7d"

def writeItems : List Output → List String
  | [] => []
  | item :: rest => write item :: writeItems rest

def writeMembers : List (String × Output) → List String
  | [] => []
  | (key, value) :: rest => (quote key ++ ":" ++ write value) :: writeMembers rest

end

end Output

end Depot.Json
