import Depot.Markup.Reference

/-!
The document type: of what it may contain, only the definitions of entities matter. A reference to
a parameter entity between declarations is replaced by text that is read like the rest, so the
number of such replacements is bounded.
-/

namespace Depot.Markup.Subset

open Text

/-- How many replacements may lie within each other, or follow each other in replacement text. -/
def depth : Nat := 10

/-- What follows the end of a comment. -/
def afterComment? : List Char → Option (List Char)
  | '-' :: '-' :: '>' :: rest => some rest
  | _ :: rest => afterComment? rest
  | [] => none

/-- What follows the end of an instruction. -/
def afterInstruction? : List Char → Option (List Char)
  | '?' :: '>' :: rest => some rest
  | _ :: rest => afterInstruction? rest
  | [] => none

/-- What follows the closing bracket of a declaration; quoted brackets do not count. -/
def afterDeclaration? : Option Char → List Char → Option (List Char)
  | _, [] => none
  | some mark, c :: rest => afterDeclaration? (if c = mark then none else some mark) rest
  | none, '>' :: rest => some rest
  | none, c :: rest =>
      afterDeclaration? (if c = '"' ∨ c = '\'' then some c else none) rest

/-- The replacement text that a definition gives: numeric references and parameter entities are
replaced at once, all others when the entity is used. -/
def replacementText? (edition : Edition) (entities : Entities) : List Char → Option (List Char)
  | [] => some []
  | '&' :: '#' :: rest =>
      match _h : splitFirst ';' rest with
      | none => none
      | some (number, after) => do
          let c ← (Reference.code? number).bind (Reference.charOf? edition)
          let after ← replacementText? edition entities after
          return c :: after
  | '%' :: rest =>
      match _h : splitFirst ';' rest with
      | none => none
      | some (name, after) => do
          let text ← entities.lookup ('%' :: name)
          let after ← replacementText? edition entities after
          return text ++ after
  | c :: rest =>
      if edition.allows c then (replacementText? edition entities rest).map (c :: ·) else none
termination_by s => s.length
decreasing_by
  · have := length_splitFirst_lt _h
    simp only [List.length_cons]
    omega
  · have := length_splitFirst_lt _h
    simp only [List.length_cons]
    omega
  · simp

def isPlainName : List Char → Bool
  | c :: rest => (isNameStart c || c == ':') && rest.all fun c => isNameChar c || c == ':'
  | [] => false

/-- The name and replacement text of a definition, and what follows the text. External entities
are known but empty. -/
def definition? (edition : Edition) (entities : Entities) (s : List Char) :
    Option ((List Char × List Char) × List Char) := do
  let s := s.dropWhile isSpace
  let (mark, s) := match s with
    | '%' :: rest => (['%'], rest.dropWhile isSpace)
    | _ => ([], s)
  let name := s.takeWhile fun c => !isSpace c
  guard (isPlainName name)
  let name := mark ++ name
  match (s.dropWhile fun c => !isSpace c).dropWhile isSpace with
  | 'S' :: rest | 'P' :: rest => return ((name, []), rest)
  | '"' :: rest =>
      let (text, rest) ← splitFirst '"' rest
      return ((name, ← replacementText? edition entities text), rest)
  | '\'' :: rest =>
      let (text, rest) ← splitFirst '\'' rest
      return ((name, ← replacementText? edition entities text), rest)
  | _ => none

/-- One item of the document type, read off its beginning. -/
inductive Item
  | nothing
  | entity (name text : List Char)
  | replace (text : List Char)

/-- The first item and what follows it. -/
def item? (edition : Edition) (entities : Entities) : List Char → Option (Item × List Char)
  | [] => none
  | '<' :: '!' :: '-' :: '-' :: rest => (afterComment? rest).map (.nothing, ·)
  | '<' :: '?' :: rest => (afterInstruction? rest).map (.nothing, ·)
  | '<' :: '!' :: rest => do
      let keyword := rest.takeWhile fun c => 'A' ≤ c && c ≤ 'Z'
      let c :: body := rest.drop keyword.length | none
      guard (isSpace c)
      match String.ofList keyword with
      | "ENTITY" =>
          let ((name, text), rest) ← definition? edition entities body
          let rest ← afterDeclaration? none rest
          return (.entity name text, rest)
      | "ELEMENT" | "ATTLIST" | "NOTATION" => (afterDeclaration? none body).map (.nothing, ·)
      | _ => none
  | '<' :: _ => none
  | '%' :: rest => do
      let (name, rest) ← splitFirst ';' rest
      let text ← entities.lookup ('%' :: name)
      return (.replace text, rest)
  | '"' :: rest => (splitFirst '"' rest).map fun (_, rest) => (.nothing, rest)
  | '\'' :: rest => (splitFirst '\'' rest).map fun (_, rest) => (.nothing, rest)
  | _ :: rest => some (.nothing, rest)

/-- Reads items until nothing is left. The count bounds the items and the replacements. -/
def readItems? (edition : Edition) : Nat → Nat → Entities → List Char → Option Entities
  | _, _, entities, [] => some entities
  | 0, _, _, _ => none
  | steps + 1, replacements, entities, s => do
      let (item, rest) ← item? edition entities s
      match item with
      | .nothing => readItems? edition steps replacements entities rest
      | .entity name text => readItems? edition steps replacements (entities ++ [(name, text)]) rest
      | .replace text =>
          if text.isEmpty then readItems? edition steps replacements entities rest
          else
            match replacements with
            | 0 => none
            | replacements + 1 =>
                readItems? edition (steps + text.length) replacements entities (text ++ rest)
termination_by steps replacements _ _ => (replacements, steps)

/-- The entities that a document type defines. -/
def entities? (edition : Edition) (s : List Char) : Option Entities :=
  readItems? edition (s.length + 1) depth [] s

/-- Where reading is within a document type: how many brackets are open, and whether they are
protected by quotes or a comment. -/
structure Extent where
  brackets : Nat := 0
  quote : Option Char := none
  comment : Bool := false
  /-- What has been read, the last character first. -/
  seen : List Char := []
deriving Repr

/-- Takes one more character; nothing if it closes the document type. -/
def Extent.add (e : Extent) (c : Char) : Option Extent :=
  let e' := { e with seen := c :: e.seen }
  if e.comment then
    some { e' with comment := !(c == '>' && e.seen.take 2 == ['-', '-']),
                   brackets := if c == '>' && e.seen.take 2 == ['-', '-'] then e.brackets - 1
                               else e.brackets }
  else
    match e.quote with
    | some mark => some { e' with quote := if c = mark then none else some mark }
    | none =>
        match c with
        | '<' => some { e' with brackets := e.brackets + 1 }
        | '>' => if e.brackets = 0 then none else some { e' with brackets := e.brackets - 1 }
        | '-' =>
            if e.seen.take 3 == ['-', '!', '<'] then some { e' with comment := true } else some e'
        | '"' | '\'' => some { e' with quote := some c }
        | _ => some e'

end Depot.Markup.Subset
