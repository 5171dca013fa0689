import Depot.Json.Amount
import Depot.Json.Reading
import Depot.Text.Quoted

/-!
Typed values from structured text. A record can be written as an object, whose members may come in
any order and among unknown ones, or as an array of its fields in their order. Whatever comes first
in the text decides which error is reported.
-/

namespace Depot.Json

open Text

inductive Error
  | fault (f : Fault)
  /-- The text is well-formed so far but does not say what is expected. -/
  | data (message : String)
deriving DecidableEq, Repr

abbrev Decoder (α : Type) := Json → Except Error α

namespace Decoder

def malformed : Error := .fault .malformed

/-- What a value is called in messages; fails where the value itself is at fault. -/
def describe : Json → Except Error String
  | .null => .ok "null"
  | .bool b => .ok ("boolean \x60" ++ (if b then "true" else "false") ++ "\x60")
  | .number n =>
      match n.amount? with
      | some a => .ok a.describe
      | none => .error malformed
  | .string s => .ok ("string " ++ Quoted.write s)
  | .unpaired => .error malformed
  | .array _ _ => .ok "sequence"
  | .object _ _ => .ok "map"
  | .fault read _ => .error (.fault read)

def wrongType (j : Json) (expected : String) : Except Error α := do
  let what ← describe j
  .error (.data ("invalid type: " ++ what ++ ", expected " ++ expected))

def string : Decoder String
  | .string s => .ok s
  | j => wrongType j "a string"

def boolean : Decoder Bool
  | .bool b => .ok b
  | j => wrongType j "a boolean"

/-- A whole number below `bound`, which is called `kind`. -/
def natural (bound : Nat) (kind : String) : Decoder Nat
  | .number n =>
      let wrong (fault : String) (a : Amount) : Except Error Nat :=
        .error (.data ("invalid " ++ fault ++ ": " ++ a.describe ++ ", expected " ++ kind))
      match n.amount? with
      | some (.natural k) => if k.toNat < bound then .ok k.toNat else wrong "value" (.natural k)
      | some (.negative k) => wrong "value" (.negative k)
      | some a => wrong "type" a
      | none => .error malformed
  | j => wrongType j kind

def option (decode : Decoder α) : Decoder (Option α)
  | .null => .ok none
  | j => (decode j).map some

def list (decode : Decoder α) : Decoder (List α)
  | .array items ending => do
      let as ← items.mapM decode
      match ending with
      | none => .ok as
      | some f => .error (.fault f)
  | j => wrongType j "a sequence"

mutual

/-- The fault that stops skipping over a value. -/
def skipFault? : Json → Option Fault
  | .array items ending => (itemsFault? items).or ending
  | .object members ending => (membersFault? members).or ending
  | .fault _ skipped => some skipped
  | _ => none

def itemsFault? : List Json → Option Fault
  | [] => none
  | j :: rest => (skipFault? j).or (itemsFault? rest)

def membersFault? : List (Option String × Json) → Option Fault
  | [] => none
  | (_, j) :: rest => (skipFault? j).or (membersFault? rest)

end

def skip (j : Json) : Except Error Unit :=
  match skipFault? j with
  | some f => .error (.fault f)
  | none => .ok ()

end Decoder

/-- A member of an object, as a field of a record under construction. -/
structure Member (σ : Type) where
  name : String
  isSet : σ → Bool
  read : σ → Json → Except Error σ

def Member.single (name : String) (decode : Decoder α) (get : σ → Option α) (set : σ → α → σ) :
    Member σ where
  name
  isSet r := (get r).isSome
  read r j := (decode j).map (set r)

namespace Decoder

/-- Takes up the members of an object. -/
def members (fields : List (Member σ)) : σ → List (Option String × Json) → Except Error σ
  | r, [] => .ok r
  | _, (none, _) :: _ => .error malformed
  | r, (some key, j) :: rest =>
      match fields.find? fun f => f.name == key with
      | none => skip j >>= fun _ => members fields r rest
      | some f =>
          if f.isSet r then .error (.data ("duplicate field \x60" ++ key ++ "\x60"))
          else f.read r j >>= fun r => members fields r rest

/-- Takes up items as fields in their order; gives back how many there were and what is left. -/
def items : List (Member σ) → σ → List Json → Except Error (σ × Nat × List Json)
  | f :: fields, r, j :: rest => do
      let r ← f.read r j
      let (r, n, left) ← items fields r rest
      .ok (r, n + 1, left)
  | _, r, rest => .ok (r, 0, rest)

/-- A record of this kind. The first fields may be required; an object lacks them by name, an array
by its length. -/
def record (kind : String) (fields : List (Member σ)) (required : Nat) (empty : σ)
    (close : σ → α) : Decoder α
  | .object ms ending => do
      let r ← members fields empty ms
      match ending with
      | some f => .error (.fault f)
      | none =>
          match (fields.take required).find? fun f => !f.isSet r with
          | some f => .error (.data ("missing field \x60" ++ f.name ++ "\x60"))
          | none => .ok (close r)
  | .array js ending => do
      let (r, n, left) ← items fields empty js
      match left with
      | _ :: _ => .error malformed
      | [] =>
          if n < fields.length ∧ ending.isSome then
            match ending with
            | some f => .error (.fault f)
            | none => .ok (close r)
          else if n < required then
            .error (.data ("invalid length " ++ Natural.write n ++ ", expected struct " ++ kind ++
              " with " ++ Natural.write fields.length ++ " elements"))
          else
            match ending with
            | some f => .error (.fault f)
            | none => .ok (close r)
  | j => wrongType j ("struct " ++ kind)

/-- The value of a whole text. -/
def text (decode : Decoder α) (s : List Char) : Except Error α := do
  let (j, more) := Json.ofChars s
  let a ← decode j
  if more then .error malformed else .ok a

end Decoder

end Depot.Json
