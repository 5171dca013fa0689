import Depot.Markup.Name

/-!
The declaration that a document may begin with: edition, encoding, and whether it stands alone.
-/

namespace Depot.Markup

open Text

structure Declaration where
  edition : Edition
  encoding : Option (List Char) := none
deriving Repr

/-- What follows a mark of quotation, up to the same mark, and the rest. -/
def quoted? : List Char → Option (List Char × List Char)
  | '"' :: rest => splitFirst '"' rest
  | '\'' :: rest => splitFirst '\'' rest
  | _ => none

/-- What is before the end of an instruction, a question mark with a closing bracket. -/
def beforeInstructionEnd? : List Char → Option (List Char)
  | [] => none
  | '?' :: '>' :: _ => some []
  | c :: rest => (beforeInstructionEnd? rest).map (c :: ·)

namespace Declaration

/-- The value of an item with this name at the beginning, and the rest. -/
def item? (name : String) (s : List Char) : Option (List Char × List Char) :=
  match afterLead? name.toList s with
  | none => none
  | some rest =>
      match rest.dropWhile isSpace with
      | '=' :: rest => quoted? (rest.dropWhile isSpace)
      | _ => none

def edition? (value : List Char) : Option Edition :=
  match String.ofList value with
  | "1.0" => some .first
  | "1.1" => some .second
  | _ => none

/-- Only an item that says whether the document stands alone, or nothing. -/
def endsWell (s : List Char) : Bool :=
  match s.dropWhile isSpace with
  | [] => true
  | rest =>
      match item? "standalone" rest with
      | some (value, rest) =>
          (String.ofList value == "yes" || String.ofList value == "no") && rest.all isSpace
      | none => false

/-- Reads the items behind the name of the declaration. -/
def ofItems? (s : List Char) : Option Declaration := do
  let (value, rest) ← item? "version" (s.dropWhile isSpace)
  let edition ← edition? value
  match rest with
  | [] => return { edition }
  | c :: _ =>
      if isSpace c then
        match item? "encoding" (rest.dropWhile isSpace) with
        | some (encoding, rest) =>
            if endsWell rest then some { edition, encoding := some encoding } else none
        | none => if endsWell rest then some { edition } else none
      else none

/-- The declaration at the beginning of a document. -/
def ofDocument? (s : List Char) : Option Declaration := do
  let rest ← afterLead? "<?xml".toList s
  let items ← beforeInstructionEnd? rest
  let c :: _ := items | none
  guard (isSpace c)
  ofItems? items

end Declaration

end Depot.Markup
