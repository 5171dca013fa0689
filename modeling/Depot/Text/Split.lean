/-!
Cutting text at a character, and taking a known beginning or end off it.
-/

namespace Depot.Text

/-- The parts before and after the first `sep`. -/
def splitFirst (sep : Char) : List Char → Option (List Char × List Char)
  | [] => none
  | c :: rest =>
      if c = sep then some ([], rest)
      else (splitFirst sep rest).map fun (before, after) => (c :: before, after)

/-- The parts before and after the last `sep`. -/
def splitLast (sep : Char) : List Char → Option (List Char × List Char)
  | [] => none
  | c :: rest =>
      match splitLast sep rest with
      | some (before, after) => some (c :: before, after)
      | none => if c = sep then some ([], rest) else none

/-- All parts between occurrences of `sep`: one more than there are occurrences. -/
def splitAll (sep : Char) : List Char → List (List Char)
  | [] => [[]]
  | c :: rest =>
      if c = sep then [] :: splitAll sep rest
      else
        match splitAll sep rest with
        | [] => [[c]]
        | part :: parts => (c :: part) :: parts

def replaceChar (old new : Char) (s : List Char) : List Char :=
  s.map fun c => if c = old then new else c

def dropEndWhile (p : Char → Bool) (s : List Char) : List Char :=
  (s.reverse.dropWhile p).reverse

/-- What follows `lead`, if the text begins with it. -/
def afterLead? (lead s : List Char) : Option (List Char) := lead.isPrefixOf? s

/-- What precedes `tail`, if the text ends with it. -/
def beforeTail? (tail s : List Char) : Option (List Char) := tail.isSuffixOf? s

@[simp]
theorem afterLead?_nil (s : List Char) : afterLead? [] s = some s := rfl

@[simp]
theorem afterLead?_cons_nil (c : Char) (lead : List Char) : afterLead? (c :: lead) [] = none := rfl

theorem afterLead?_cons_cons (c d : Char) (lead s : List Char) :
    afterLead? (c :: lead) (d :: s) = if c == d then afterLead? lead s else none := rfl

theorem afterLead?_eq_some_iff {lead s rest : List Char} :
    afterLead? lead s = some rest ↔ s = lead ++ rest := by
  induction lead generalizing s with
  | nil => simp
  | cons c lead ih =>
      cases s with
      | nil => simp
      | cons d s =>
          rw [afterLead?_cons_cons]
          by_cases h : c = d
          · simp [h, ih]
          · simp [h, Ne.symm h]

theorem beforeTail?_eq_some_iff {tail s front : List Char} :
    beforeTail? tail s = some front ↔ s = front ++ tail := by
  have hreversed : beforeTail? tail s = (afterLead? tail.reverse s.reverse).map List.reverse := rfl
  rw [hreversed, Option.map_eq_some_iff]
  constructor
  · rintro ⟨rest, hrest, rfl⟩
    have hreverse := congrArg List.reverse (afterLead?_eq_some_iff.1 hrest)
    simpa using hreverse
  · rintro rfl
    exact ⟨front.reverse, afterLead?_eq_some_iff.2 (List.reverse_append ..),
      List.reverse_reverse _⟩

theorem splitFirst_eq_none {sep : Char} {s : List Char} :
    splitFirst sep s = none ↔ sep ∉ s := by
  induction s with
  | nil => simp [splitFirst]
  | cons c rest ih =>
      by_cases hc : c = sep
      · simp [splitFirst, hc]
      · simp [splitFirst, hc, ih, Ne.symm hc]

theorem splitFirst_eq_some {sep : Char} {s before after : List Char}
    (h : splitFirst sep s = some (before, after)) :
    s = before ++ sep :: after ∧ sep ∉ before := by
  induction s generalizing before with
  | nil => simp [splitFirst] at h
  | cons c rest ih =>
      by_cases hc : c = sep
      · simp only [splitFirst, hc, if_true, Option.some.injEq, Prod.mk.injEq] at h
        obtain ⟨rfl, rfl⟩ := h
        simp [hc]
      · simp only [splitFirst, hc, if_false, Option.map_eq_some_iff] at h
        obtain ⟨⟨b, a⟩, hb, he⟩ := h
        simp only [Prod.mk.injEq] at he
        obtain ⟨rfl, rfl⟩ := he
        obtain ⟨rfl, hn⟩ := ih hb
        exact ⟨rfl, by simp [hn, Ne.symm hc]⟩

theorem splitFirst_append {sep : Char} {before after : List Char} (h : sep ∉ before) :
    splitFirst sep (before ++ sep :: after) = some (before, after) := by
  induction before with
  | nil => simp [splitFirst]
  | cons c before ih =>
      rw [List.mem_cons, not_or] at h
      rw [List.cons_append, splitFirst, if_neg (Ne.symm h.1), ih h.2, Option.map_some]

theorem length_splitFirst_lt {sep : Char} {s before after : List Char}
    (h : splitFirst sep s = some (before, after)) : after.length < s.length := by
  have := congrArg List.length (splitFirst_eq_some h).1
  simp only [List.length_append, List.length_cons] at this
  omega

theorem splitLast_eq_none {sep : Char} {s : List Char} : splitLast sep s = none ↔ sep ∉ s := by
  induction s with
  | nil => simp [splitLast]
  | cons c rest ih =>
      cases h : splitLast sep rest with
      | none =>
          have hn := ih.1 h
          by_cases hc : c = sep
          · simp [splitLast, h, hc]
          · simp [splitLast, h, hc, hn, Ne.symm hc]
      | some p =>
          have hm : sep ∈ rest := Classical.not_not.1 fun hn => by simp [ih.2 hn] at h
          simp [splitLast, h, hm]

theorem splitLast_eq_some {sep : Char} {s before after : List Char}
    (h : splitLast sep s = some (before, after)) :
    s = before ++ sep :: after ∧ sep ∉ after := by
  induction s generalizing before with
  | nil => simp [splitLast] at h
  | cons c rest ih =>
      cases hr : splitLast sep rest with
      | none =>
          have hn := splitLast_eq_none.1 hr
          by_cases hc : c = sep
          · simp only [splitLast, hr, hc, if_true, Option.some.injEq, Prod.mk.injEq] at h
            obtain ⟨rfl, rfl⟩ := h
            simp [hc, hn]
          · simp [splitLast, hr, hc] at h
      | some p =>
          obtain ⟨b, a⟩ := p
          simp only [splitLast, hr, Option.some.injEq, Prod.mk.injEq] at h
          obtain ⟨rfl, rfl⟩ := h
          obtain ⟨rfl, hn⟩ := ih hr
          exact ⟨rfl, hn⟩

theorem splitLast_append {sep : Char} {before after : List Char} (h : sep ∉ after) :
    splitLast sep (before ++ sep :: after) = some (before, after) := by
  induction before with
  | nil => simp [splitLast, splitLast_eq_none.2 h]
  | cons c before ih => rw [List.cons_append, splitLast, ih]

end Depot.Text
