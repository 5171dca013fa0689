import Depot.Markup.Subset
import Depot.Markup.Tag

/-!
What a document consists of, read character by character: tags and runs of text. Comments join the
text around them, so do references and sections of character data, while an instruction parts it.
Text keeps no white space at its ends, and text of nothing else is left out. Reading is over with
the end of the outermost element.
-/

namespace Depot.Markup

open Text

/-- The name of an element in its namespace. -/
structure ElementName where
  name : Name
  space : Option String
deriving DecidableEq, Repr, Inhabited

inductive Event
  | start (name : ElementName) (attributes : List (String × String))
  | text (s : String)
  | stop
deriving DecidableEq, Repr

/-- Which namespace a label stands for; the empty label is that of names without one. -/
abbrev Scope := List (String × String)

namespace Scope

/-- Namespaces of the standard are named like pages of its site. -/
def standardSpace (page : String) : String := "http:" ++ "//www.w3.org/" ++ page

def markupSpace : String := standardSpace "XML/1998/namespace"

def labelSpace : String := standardSpace "2000/xmlns/"

def outermost : Scope := [("xml", markupSpace), ("xmlns", labelSpace), ("", "")]

/-- Namespaces that can not be the default. -/
def reserved : List String := ["xml", "xmlns", markupSpace, labelSpace]

/-- What one attribute adds: a label, or nothing if it is an ordinary one. -/
def declared? (name : Name) (value : String) : Option (Option (String × String)) :=
  match name.label with
  | some "xmlns" =>
      if name.part == "xmlns" || value.isEmpty || (name.part == "xml" && value != markupSpace) then
        none
      else some (some (name.part, value))
  | none =>
      if name.part == "xmlns" then
        if reserved.contains value then none else some (some ("", value))
      else some none
  | _ => some none

/-- Parts attributes into labels and ordinary ones. -/
def part? : List (Name × String) → Option (Scope × List (Name × String))
  | [] => some ([], [])
  | (name, value) :: rest => do
      let declared ← declared? name value
      let (labels, plain) ← part? rest
      match declared with
      | some label => return (label :: labels, plain)
      | none => if plain.any (·.1 == name) then none else return (labels, (name, value) :: plain)

/-- The namespace of an element; the labels of markup itself are none for elements. -/
def elementName? (scope : Scope) (name : Name) : Option ElementName :=
  if name.label == some "xml" || name.label == some "xmlns" then none
  else (scope.lookup (name.label.getD "")).map fun space =>
    ⟨name, if space.isEmpty then none else some space⟩

def binds (scope : Scope) (name : Name) : Bool :=
  match name.label with
  | none => true
  | some label => (scope.lookup label).isSome

end Scope

inductive Phase
  /-- Text, with the number of closing square brackets right before. -/
  | text (brackets : Nat)
  /-- A name behind an ampersand, the last character first. -/
  | reference (seen : List Char)
  /-- Behind an opening bracket. -/
  | bracket
  /-- Behind a bracket and an exclamation mark. -/
  | keyword (seen : List Char)
  | comment (dashes : Nat)
  | characterData (brackets : Nat)
  | instruction (seen : List Char)
  | tag (quote : Option Char) (seen : List Char)
  | endTag (seen : List Char)
  | documentType (extent : Subset.Extent)
  | finished
  | fault
deriving Repr

structure Reading where
  phase : Phase := .text 0
  edition : Edition := .first
  entities : Entities := []
  /-- Names and scopes of the elements that are not closed, the innermost first. -/
  opened : List (Name × Scope) := []
  /-- Text since the last event, the last character first. -/
  run : List Char := []
  /-- The last event first. -/
  events : List Event := []
  /-- Whether anything precedes. -/
  begun : Bool := false
  hasType : Bool := false
  /-- Replacement text to be read next. -/
  pending : List Char := []
deriving Repr

namespace Reading

def failed (r : Reading) : Reading := { r with phase := .fault }

def scope (r : Reading) : Scope := (r.opened.head?.map (·.2)).getD Scope.outermost

/-- Ends the run of text. -/
def flush (r : Reading) : Reading :=
  let trimmed := dropEndWhile isSpace r.run.reverse |>.dropWhile isSpace
  if trimmed.isEmpty then { r with run := [] }
  else { r with run := [], events := .text (String.ofList trimmed) :: r.events }

def push (r : Reading) (cs : List Char) : Reading := { r with run := cs.reverse ++ r.run }

def inText (r : Reading) : Reading := { r with phase := .text 0, begun := true }

def stepText (r : Reading) (brackets : Nat) (c : Char) : Reading :=
  if c == '<' then { r with phase := .bracket }
  else if !r.edition.allows c then r.failed
  else if r.opened.isEmpty then
    if isSpace c then r.inText else r.failed
  else if c == '&' then { r with phase := .reference [] }
  else if c == ']' then { r.push [c] with phase := .text (brackets + 1) }
  else if c == '>' && brackets ≥ 2 then r.failed
  else (r.push [c]).inText

def stepReference (r : Reading) (seen : List Char) (c : Char) : Reading :=
  if c == ';' then
    match Reference.replacement? r.edition r.entities seen.reverse with
    | none => r.failed
    | some (.char c) => (r.push [c]).inText
    | some (.text s) => { r.inText with pending := s }
  else if isNameChar c || c == ':' || c == '#' then { r with phase := .reference (c :: seen) }
  else r.failed

def stepBracket (r : Reading) (c : Char) : Reading :=
  if c == '!' then { r with phase := .keyword [] }
  else if c == '?' then { r.flush with phase := .instruction [] }
  else if c == '/' then
    if r.opened.isEmpty then r.failed else { r.flush with phase := .endTag [] }
  else if isNameStart c then { r.flush with phase := .tag none [c] }
  else r.failed

/-- What may follow a bracket with an exclamation mark. -/
def keywords : List (List Char) := ["--".toList, "[CDATA[".toList, "DOCTYPE".toList]

def stepKeyword (r : Reading) (seen : List Char) (c : Char) : Reading :=
  let word := (c :: seen).reverse
  match String.ofList word with
  | "--" => { r with phase := .comment 0 }
  | "[CDATA[" => if r.opened.isEmpty then r.failed else { r with phase := .characterData 0 }
  | "DOCTYPE" =>
      if r.opened.isEmpty && !r.hasType then { r with phase := .documentType {}, hasType := true }
      else r.failed
  | _ => if keywords.any word.isPrefixOf then { r with phase := .keyword (c :: seen) } else r.failed

def stepComment (r : Reading) (dashes : Nat) (c : Char) : Reading :=
  if dashes ≥ 2 then if c == '>' then r.inText else r.failed
  else if c == '-' then { r with phase := .comment (dashes + 1) }
  else if r.edition.allows c then { r with phase := .comment 0 }
  else r.failed

def stepCharacterData (r : Reading) (brackets : Nat) (c : Char) : Reading :=
  if c == ']' then { r with phase := .characterData (brackets + 1) }
  else if c == '>' && brackets ≥ 2 then (r.push (List.replicate (brackets - 2) ']')).inText
  else if r.edition.allows c then
    { r.push (List.replicate brackets ']' ++ [c]) with phase := .characterData 0 }
  else r.failed

/-- An instruction, or the declaration if nothing precedes it. -/
def instruct (r : Reading) (content : List Char) : Reading :=
  let name := content.takeWhile fun c => !isSpace c
  let rest := content.drop name.length
  if !r.begun && String.ofList name == "xml" && !rest.isEmpty then
    match Declaration.ofItems? rest with
    | some d => { r.inText with edition := d.edition }
    | none => r.failed
  else if name.isEmpty then if rest.isEmpty then r.failed else r.inText
  else if Subset.isPlainName name && name.map Char.toLower != "xml".toList then r.inText
  else r.failed

def stepInstruction (r : Reading) (seen : List Char) (c : Char) : Reading :=
  match c, seen with
  | '>', '?' :: content => r.instruct content.reverse
  | _, _ => { r with phase := .instruction (c :: seen) }

/-- Closes the innermost element. -/
def close (r : Reading) : Reading :=
  let r := { r with opened := r.opened.tail, events := .stop :: r.events }
  if r.opened.isEmpty then { r with phase := .finished } else r.inText

def openElement (r : Reading) (tag : Tag) : Reading :=
  match Scope.part? tag.attributes with
  | none => r.failed
  | some (labels, plain) =>
      let scope := labels ++ r.scope
      match scope.elementName? tag.name with
      | none => r.failed
      | some name =>
          if plain.all fun (key, _) => scope.binds key then
            let attributes := plain.map fun (key, value) => (key.part, value)
            let r := { r.inText with opened := (tag.name, scope) :: r.opened,
                                     events := .start name attributes :: r.events }
            if tag.isEmpty then r.close else r
          else r.failed

def stepTag (r : Reading) (quote : Option Char) (seen : List Char) (c : Char) : Reading :=
  if c == '<' then r.failed
  else
    match quote with
    | some mark => { r with phase := .tag (if c = mark then none else some mark) (c :: seen) }
    | none =>
        if c == '>' then
          match Tag.ofChars? r.edition r.entities seen.reverse with
          | some tag => r.openElement tag
          | none => r.failed
        else
          { r with phase := .tag (if c = '"' ∨ c = '\'' then some c else none) (c :: seen) }

def stepEndTag (r : Reading) (seen : List Char) (c : Char) : Reading :=
  if c == '>' then
    match Tag.endName? seen.reverse with
    | some name => if r.opened.head?.any (·.1 == name) then r.close else r.failed
    | none => r.failed
  else if c == '<' then r.failed
  else { r with phase := .endTag (c :: seen) }

def stepDocumentType (r : Reading) (extent : Subset.Extent) (c : Char) : Reading :=
  match extent.add c with
  | some extent => { r with phase := .documentType extent }
  | none =>
      match Subset.entities? r.edition extent.seen.reverse with
      | some entities => { r.inText with entities }
      | none => r.failed

def step (r : Reading) (c : Char) : Reading :=
  match r.phase with
  | .text brackets => r.stepText brackets c
  | .reference seen => r.stepReference seen c
  | .bracket => r.stepBracket c
  | .keyword seen => r.stepKeyword seen c
  | .comment dashes => r.stepComment dashes c
  | .characterData brackets => r.stepCharacterData brackets c
  | .instruction seen => r.stepInstruction seen c
  | .tag quote seen => r.stepTag quote seen c
  | .endTag seen => r.stepEndTag seen c
  | .documentType extent => r.stepDocumentType extent c
  | .finished | .fault => r

/-- Reads characters together with the replacement text that they call for. The number of
replacements is bounded, so that entities can not stand for each other without end. -/
def feed : Nat → Reading → List Char → Reading
  | _, r, [] => r
  | replacements, r, c :: queue =>
      let r := r.step c
      if r.pending.isEmpty then feed replacements r queue
      else
        match replacements with
        | 0 => r.failed
        | replacements + 1 => feed replacements { r with pending := [] } (r.pending ++ queue)
termination_by replacements _ queue => (replacements, queue.length)

def ofChars (s : List Char) : Reading := s.foldl (fun r c => feed Subset.depth r [c]) {}

end Reading

end Depot.Markup
