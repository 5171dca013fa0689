import Depot.Markup.Declaration
import Depot.Markup.Reference

/-!
Tags that open elements: a name and attributes, each attribute behind white space.
-/

namespace Depot.Markup

open Text

structure Tag where
  name : Name
  attributes : List (Name × String)
  /-- The element ends with the tag itself. -/
  isEmpty : Bool
deriving Repr

namespace Tag

theorem length_dropWhile_le (p : Char → Bool) (s : List Char) :
    (s.dropWhile p).length ≤ s.length := (List.dropWhile_sublist p).length_le

theorem length_quoted_lt {s value rest : List Char} (h : quoted? s = some (value, rest)) :
    rest.length < s.length := by
  unfold quoted? at h
  split at h
  · have := length_splitFirst_lt h
    simp only [List.length_cons]
    omega
  · have := length_splitFirst_lt h
    simp only [List.length_cons]
    omega
  · simp at h

/-- Attributes in the order in which they stand. -/
def attributes? (edition : Edition) (entities : Entities) (s : List Char) :
    Option (List (Name × String)) :=
  match _hs : s.dropWhile isSpace with
  | [] => some []
  | c :: rest =>
      if !(s.head?.any isSpace) then none
      else
        match _he : splitFirst '=' (c :: rest) with
        | none => none
        | some (name, after) =>
            match _hq : quoted? (after.dropWhile isSpace) with
            | none => none
            | some (value, after') => do
                let name ← Name.ofChars? (dropEndWhile isSpace name)
                let value ← Reference.expand? edition entities value
                let more ← attributes? edition entities after'
                return (name, String.ofList value) :: more
termination_by s.length
decreasing_by
  have h1 := length_dropWhile_le isSpace s
  have h2 := length_splitFirst_lt _he
  have h3 := length_dropWhile_le isSpace after
  have h4 := length_quoted_lt _hq
  rw [_hs] at h1
  omega

/-- Reads what stands between the brackets of a tag. -/
def ofChars? (edition : Edition) (entities : Entities) (s : List Char) : Option Tag := do
  let (s, isEmpty) := match beforeTail? ['/'] s with
    | some s => (s, true)
    | none => (s, false)
  let name ← Name.ofChars? (s.takeWhile fun c => !isSpace c)
  let attributes ← attributes? edition entities (s.dropWhile fun c => !isSpace c)
  return { name, attributes, isEmpty }

/-- Reads the tag that ends an element, without the slash. -/
def endName? (s : List Char) : Option Name := Name.ofChars? (dropEndWhile isSpace s)

end Tag

end Depot.Markup
