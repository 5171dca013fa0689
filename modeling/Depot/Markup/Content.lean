import Depot.Markup.Encoding
import Depot.Markup.Event

/-!
The content of elements as a tree. A document that is not well-formed has content up to the fault,
so that what precedes it can be read.
-/

namespace Depot.Markup

/-- What stands between two tags, in order. -/
inductive Content
  /-- The closing tag. -/
  | done
  /-- From here on the document is not well-formed. -/
  | fault
  | text (s : String) (rest : Content)
  | element (name : ElementName) (attributes : List (String × String)) (inner rest : Content)
deriving Repr, Inhabited

namespace Content

/-- Puts an event before the content that follows it; the list holds the content of the innermost
element first. -/
def prepend (stack : List Content) (event : Event) : List Content :=
  match event, stack with
  | .stop, _ => .done :: stack
  | .text s, rest :: outer => .text s rest :: outer
  | .start name attributes, inner :: rest :: outer => .element name attributes inner rest :: outer
  | _, _ => stack

/-- The content of a document, from its events with the last one first. -/
def ofEvents (ending : List Content) (events : List Event) : Content :=
  (events.foldl prepend ending).headD .fault

def ofReading (r : Reading) : Content :=
  match r.phase with
  | .finished => ofEvents [.done] r.events
  | _ => ofEvents (List.replicate (r.opened.length + 1) .fault) r.events

def ofBytes (bytes : Bytes) : Content := ofReading (.ofChars (Encoding.read bytes))

end Content

end Depot.Markup
