import Depot.Digest.Base64
import Depot.Http.Header
import Depot.Text.Quoted
import Depot.Text.Split

/-!
User names and passwords, which may refer to the environment. A reference is a dollar sign and a
name in braces; only names that begin with the word env and a dot are known.
-/

namespace Depot

open Text

structure Credentials where
  username : String
  password : String
deriving DecidableEq, Repr, Inhabited

namespace Credentials

def scope : List Char := "env.".toList

/-- The value of a reference with this name. -/
def reference? (lookup : String → Option String) (name : List Char) : Option String :=
  (afterLead? scope name).bind fun key => lookup (String.ofList key)

/-- Replaces all references from left to right, if all have a value. Inserted values are not
looked at again, and text without a closing brace is no reference. -/
def substitute? (lookup : String → Option String) : List Char → Option (List Char)
  | [] => some []
  | '$' :: '\x7b' :: rest =>
      match _h : splitFirst '\x7d' rest with
      | none => some ('$' :: '\x7b' :: rest)
      | some (name, after) => do
          let value ← reference? lookup name
          let after ← substitute? lookup after
          return value.toList ++ after
  | c :: rest => (substitute? lookup rest).map (c :: ·)
termination_by s => s.length
decreasing_by
  · have := length_splitFirst_lt _h
    simp only [List.length_cons]
    omega
  · simp

/-- Credentials with a reference that has no value can not be used. -/
def resolve? (lookup : String → Option String) (c : Credentials) : Option Credentials := do
  let username ← substitute? lookup c.username.toList
  let password ← substitute? lookup c.password.toList
  return ⟨String.ofList username, String.ofList password⟩

/-- The form in which credentials may be shown: without the password. -/
def shown (c : Credentials) : String :=
  "Credentials \x7b username: " ++ Quoted.write c.username ++ ", password: " ++
    Quoted.write "***" ++ " \x7d"

/-- What proves the user's identity to a server that asks for a name and password. -/
def authorization (c : Credentials) : Http.Header where
  name := "authorization"
  value :=
    Utf8.encode ("Basic " ++ Digest.Base64.write (Utf8.encode (c.username ++ ":" ++ c.password)))

/-- The same, if a header can hold it. -/
def authorization? (c : Credentials) : Option Http.Header :=
  if Http.Header.isValue c.authorization.value then some c.authorization else none

end Credentials

end Depot
