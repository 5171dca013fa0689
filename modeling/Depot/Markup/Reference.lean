import Depot.Markup.Name
import Depot.Text.Digit

/-!
References: names between an ampersand and a semicolon that stand for characters. Five names are
known to all documents, numbers stand for the character of that code, and a document can define
further names.
-/

namespace Depot.Markup

open Text

/-- Names that a document defines, with their replacement text; the first definition counts. -/
abbrev Entities := List (List Char × List Char)

inductive Replacement
  | char (c : Char)
  | text (s : List Char)
deriving Repr

namespace Reference

def value? (base : Nat) (digit? : Char → Option Nat) (s : List Char) : Option Nat :=
  if s.isEmpty then none
  else s.foldlM (fun n c => (digit? c).map fun d => n * base + d) 0

def code? : List Char → Option Nat
  | 'x' :: digits => value? 16 hexValue? digits
  | digits => value? 10 digitValue? digits

def charOf? (edition : Edition) (code : Nat) : Option Char :=
  if h : code.isValidChar then
    let c := Char.ofNatAux code h
    if edition.allowsReference c then some c else none
  else none

def predefined? (name : List Char) : Option Char :=
  match String.ofList name with
  | "lt" => some '<'
  | "gt" => some '>'
  | "amp" => some '&'
  | "apos" => some '\''
  | "quot" => some '"'
  | _ => none

def isName : List Char → Bool
  | c :: rest =>
      (isNameStart c || c == ':' || c == '#') && rest.all fun c => isNameChar c || c == ':'
  | [] => false

/-- What the reference with this name stands for. -/
def replacement? (edition : Edition) (entities : Entities) (name : List Char) :
    Option Replacement :=
  if !isName name then none
  else
    match predefined? name with
    | some c => some (.char c)
    | none =>
        match name with
        | '#' :: number => (code? number).bind (charOf? edition) |>.map .char
        | _ => (entities.lookup name).map .text

/-- The text of an attribute's value, with all references replaced. Replacement text is taken as it
is, so that it can not end the value. -/
def expand? (edition : Edition) (entities : Entities) : List Char → Option (List Char)
  | [] => some []
  | '&' :: rest =>
      match _h : splitFirst ';' rest with
      | none => none
      | some (name, after) => do
          let replacement ← replacement? edition entities name
          let after ← expand? edition entities after
          match replacement with
          | .char c => return c :: after
          | .text s => return s ++ after
  | c :: rest =>
      if c = '<' ∨ !edition.allows c then none else (expand? edition entities rest).map (c :: ·)
termination_by s => s.length
decreasing_by
  · have := length_splitFirst_lt _h
    simp only [List.length_cons]
    omega
  · simp

end Reference

end Depot.Markup
