import Depot.Proofs.Locations

/-!
Taking characters off the ends of a text. What is left is told by where it lies: between characters
of the kind, beginning and ending with others.
-/

namespace Depot.Text

variable {p : Char → Bool} {s before after : List Char}

/-- A text without the characters of a kind at both of its ends. -/
def strip (p : Char → Bool) (s : List Char) : List Char := dropEndWhile p (s.dropWhile p)

/-- There is none of these characters at either end. -/
structure IsBare (p : Char → Bool) (s : List Char) : Prop where
  head : ∀ c, s.head? = some c → p c = false
  last : ∀ c, s.getLast? = some c → p c = false

theorem exists_dropEndWhile (p : Char → Bool) (s : List Char) :
    ∃ after, s = dropEndWhile p s ++ after ∧ ∀ c ∈ after, p c = true := by
  refine ⟨(s.reverse.takeWhile p).reverse, ?_, fun c hc => ?_⟩
  · rw [dropEndWhile, ← List.reverse_append, List.takeWhile_append_dropWhile, List.reverse_reverse]
  · exact List.mem_takeWhile_imp (List.mem_reverse.1 hc)

theorem dropEndWhile_append (hs : ∀ c, s.getLast? = some c → p c = false)
    (hafter : ∀ c ∈ after, p c = true) : dropEndWhile p (s ++ after) = s := by
  rw [dropEndWhile, List.reverse_append,
    List.dropWhile_append_of_pos fun c hc => hafter c (List.mem_reverse.1 hc)]
  refine List.rdropWhile_eq_self_iff.2 fun hne => ?_
  rw [hs _ (List.getLast?_eq_some_getLast hne)]
  exact Bool.false_ne_true

theorem exists_strip (p : Char → Bool) (s : List Char) : ∃ before after,
    s = before ++ strip p s ++ after ∧ (∀ c ∈ before, p c = true) ∧ ∀ c ∈ after, p c = true := by
  obtain ⟨after, hsplit, hafter⟩ := exists_dropEndWhile p (s.dropWhile p)
  refine ⟨s.takeWhile p, after, ?_, fun c hc => List.mem_takeWhile_imp hc, hafter⟩
  rw [List.append_assoc, strip, ← hsplit, List.takeWhile_append_dropWhile]

theorem strip_of_isBare (hs : IsBare p s) (hbefore : ∀ c ∈ before, p c = true)
    (hafter : ∀ c ∈ after, p c = true) : strip p (before ++ s ++ after) = s := by
  rw [strip, List.append_assoc, List.dropWhile_append_of_pos hbefore]
  cases s with
  | nil => rw [List.nil_append, List.dropWhile_eq_nil_iff.2 hafter]; rfl
  | cons c s =>
      rw [List.cons_append, List.dropWhile_cons_of_neg (by simp [hs.head c rfl]),
        ← List.cons_append]
      exact dropEndWhile_append hs.last hafter

theorem head?_dropEndWhile {c : Char} (h : (dropEndWhile p s).head? = some c) :
    s.head? = some c := by
  obtain ⟨after, hsplit, -⟩ := exists_dropEndWhile p s
  rw [hsplit, List.head?_append, h]
  rfl

theorem isBare_strip (p : Char → Bool) (s : List Char) : IsBare p (strip p s) where
  head c hc := by
    have hhead := head?_dropEndWhile hc
    have := List.head?_dropWhile_not p s
    rw [hhead] at this
    simpa using this
  last _ hc := getLast?_dropEndWhile hc

theorem strip_eq_self (hs : IsBare p s) : strip p s = s := by
  have hnone : ∀ c ∈ ([] : List Char), p c = true := List.forall_mem_nil _
  simpa using strip_of_isBare hs hnone hnone

theorem toList_trim (s : String) : (trim s).toList = strip isBlank s.toList := by
  simp only [trim, trimEnd, trimStart, String.toList_ofList, strip]

end Depot.Text
