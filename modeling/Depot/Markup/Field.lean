import Depot.Markup.Content
import Depot.Text.Natural
import Depot.Text.Quoted

/-!
Values of elements and attributes. A record is an element whose attributes and child elements are
its fields; the namespaces of their names do not count. Fields that are not known are skipped, so
is text between elements. Whatever comes first in the document decides which fault is reported.
-/

namespace Depot.Markup

open Text

inductive Fault
  /-- The document is not well-formed. -/
  | malformed
  /-- An element, or its end, where something else has to be. -/
  | unexpectedToken
  | wrongType (value expected : String)
  | notBoolean (value : String)
  | duplicate (field : String)
  | missing (field : String)
  | number (fault : Natural.Fault)
deriving DecidableEq, Repr

namespace Fault

def message : Fault → String
  | malformed => "Syntax"
  | unexpectedToken => "Expected token"
  | wrongType value expected =>
      "custom: invalid type: string " ++ Quoted.write value ++ ", expected " ++ expected
  | notBoolean value =>
      "custom: invalid value: string " ++ Quoted.write value ++ ", expected a boolean"
  | duplicate field => "custom: duplicate field \x60" ++ field ++ "\x60"
  | missing field => "custom: missing field \x60" ++ field ++ "\x60"
  | number fault => "ParseIntError: " ++ fault.message

end Fault

/-- Where a value stands. -/
inductive Source
  | attribute (value : String)
  | element (attributes : List (String × String)) (inner : Content)

abbrev Reader (α : Type) := Source → Except Fault α

namespace Reader

/-- An element must hold nothing but this text. -/
def onlyThis (a : α) : Content → Except Fault α
  | .done => .ok a
  | .fault => .error .malformed
  | _ => .error .unexpectedToken

def text : Reader String
  | .attribute value => .ok value
  | .element _ .done => .ok ""
  | .element _ .fault => .error .malformed
  | .element _ (.text s rest) => onlyThis s rest
  | .element _ (.element _ _ _ _) => .error .unexpectedToken

def number (s : String) : Except Fault UInt32 :=
  match Natural.read UInt32.size s.toList with
  | .ok n => .ok (UInt32.ofNat n)
  | .error fault => .error (.number fault)

/-- Unlike a text, a number can not be an empty element. -/
def natural : Reader UInt32
  | .attribute value => number value
  | .element _ (.text s rest) => onlyThis () rest >>= fun _ => number s
  | .element _ .fault => .error .malformed
  | .element _ _ => .error .unexpectedToken

def boolean (s : String) : Except Fault Bool :=
  match s with
  | "true" | "1" => .ok true
  | "false" | "0" => .ok false
  | _ => .error (.notBoolean s)

def flag : Reader Bool
  | .attribute value => boolean value
  | .element _ .done => .ok false
  | .element _ .fault => .error .malformed
  | .element _ (.text s rest) => boolean s >>= fun b => onlyThis b rest
  | .element _ (.element _ _ _ _) => .error .unexpectedToken

end Reader

/-- A field of a record under construction. -/
structure Field (σ : Type) where
  isSet : σ → Bool
  read : σ → Source → Except Fault σ
  /-- Elements of the same name may follow each other. -/
  repeats : Bool := false

/-- An optional field. -/
def Field.single (read : Reader α) (get : σ → Option α) (set : σ → α → σ) : Field σ where
  isSet r := (get r).isSome
  read r source := (read source).map (set r)

/-- A list of elements that follow each other. An attribute can not hold a list. -/
def Field.items (read : Reader α) (get : σ → Option (List α)) (set : σ → List α → σ) : Field σ where
  isSet r := (get r).isSome
  read r source :=
    match source with
    | .attribute value => .error (.wrongType value "a sequence")
    | .element _ _ => (read source).map fun a => set r ((get r).getD [] ++ [a])
  repeats := true

abbrev Fields (σ : Type) := List (String × Field σ)

/-- Takes up one field; `again` says that it continues a list. -/
def Fields.add (fields : Fields σ) (r : σ) (key : String) (again : Bool) (source : Source) :
    Except Fault σ :=
  match fields.lookup key with
  | none => .ok r
  | some f =>
      if f.isSet r && !(f.repeats && again) then .error (.duplicate key) else f.read r source

def Fields.addAttributes (fields : Fields σ) (r : σ) (attributes : List (String × String)) :
    Except Fault σ :=
  attributes.foldlM (fun r (key, value) => fields.add r key false (.attribute value)) r

/-- Takes up all child elements. -/
def Fields.addContent (fields : Fields σ) : σ → Option ElementName → Content → Except Fault σ
  | r, _, .done => .ok r
  | _, _, .fault => .error .malformed
  | r, previous, .text _ rest => fields.addContent r previous rest
  | r, previous, .element name attributes inner rest =>
      match fields.add r name.name.part (previous == some name) (.element attributes inner) with
      | .error fault => .error fault
      | .ok r => fields.addContent r (some name) rest

namespace Reader

/-- A record of this kind; `close` looks at it when all fields are there. -/
def record (kind : String) (fields : Fields σ) (empty : σ) (close : σ → Except Fault α) : Reader α
  | .attribute value => .error (.wrongType value ("struct " ++ kind))
  | .element attributes inner => do
      let r ← fields.addAttributes empty attributes
      let r ← fields.addContent r none inner
      close r

/-- Reads the outermost element of a document, whatever its name is. -/
def document (read : Reader α) (bytes : Bytes) : Except Fault α :=
  match Content.ofBytes bytes with
  | .element _ attributes inner _ => read (.element attributes inner)
  | _ => .error .malformed

end Reader

end Depot.Markup
