import Depot.Text.Split

/-!
The page that a server shows for a directory: links to its subdirectories, written as references
that end with a slash.
-/

namespace Depot.Repository.Index

open Text

def lead : List Char := "href=\"".toList

def isNameChar (c : Char) : Bool := c ∉ ['"', '/', '?', '#', ':']

/-- The name in a reference at the beginning, and what follows the reference. -/
def link? (s : List Char) : Option (List Char × List Char) :=
  match afterLead? lead s with
  | none => none
  | some rest =>
      let name := rest.takeWhile isNameChar
      match name, rest.drop name.length with
      | _ :: _, '/' :: '"' :: after => some (name, after)
      | _, _ => none

theorem length_link_lt {s name after : List Char} (h : link? s = some (name, after)) :
    after.length < s.length := by
  unfold link? at h
  split at h
  · simp at h
  · rename_i rest hrest
    have hs := congrArg List.length (afterLead?_eq_some_iff.1 hrest)
    dsimp only at h
    split at h
    · rename_i hdrop
      simp only [Option.some.injEq, Prod.mk.injEq] at h
      obtain ⟨_, rfl⟩ := h
      have := congrArg List.length hdrop
      simp only [List.length_drop, List.length_cons, List.length_append] at this hs
      omega
    · simp at h

/-- All links, from left to right. -/
def links : List Char → List (List Char)
  | [] => []
  | c :: rest =>
      match _h : link? (c :: rest) with
      | some (name, after) => name :: links after
      | none => links rest
termination_by s => s.length
decreasing_by
  · exact length_link_lt _h
  · simp

/-- The subdirectories, each at its first link; the directory itself and the one above are none. -/
def names (page : String) : List String :=
  (((links page.toList).filter fun n => n != ['.'] && n != ['.', '.']).map String.ofList).eraseDups

end Depot.Repository.Index
