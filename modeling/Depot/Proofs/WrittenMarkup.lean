import Depot.Markup.Content
import Mathlib.Data.List.DropRight
import Mathlib.Data.List.TakeWhile

/-!
How content is written as markup, and that reading gets the same content back. Elements have no
attributes, and white space may stand between their tags, but not around text.
-/

namespace Depot

open Text

theorem Text.dropEndWhile_eq_self {p : Char → Bool} {s : List Char} (h : ∀ c ∈ s, p c = false) :
    dropEndWhile p s = s := by
  refine List.rdropWhile_eq_self_iff.2 fun hne => ?_
  rw [h _ (List.getLast_mem hne)]
  exact Bool.false_ne_true

theorem Text.dropWhile_eq_self {p : Char → Bool} {s : List Char} (h : ∀ c ∈ s, p c = false) :
    s.dropWhile p = s := by
  cases s with
  | nil => rfl
  | cons c s => exact List.dropWhile_cons_of_neg (Bool.eq_false_iff.1 (h c List.mem_cons_self))

namespace Markup

/-- The name of an element without a namespace. -/
def ElementName.plain (name : String) : ElementName := ⟨⟨none, name⟩, none⟩

/-- Not empty, and all of it printed in ASCII. -/
def IsPlain (s : String) : Prop := s.toList ≠ [] ∧ ∀ c ∈ s.toList, '!' ≤ c ∧ c ≤ '~'

def IsWord (name : List Char) : Prop := name ≠ [] ∧ ∀ c ∈ name, c.isAlpha

-- The characters of the list are looked at, not all that there are.
instance (s : String) : Decidable (IsPlain s) := @instDecidableAnd _ _ _ (List.decidableBAll _ _)

instance (name : List Char) : Decidable (IsWord name) :=
  @instDecidableAnd _ _ _ (List.decidableBAll _ _)

def escape : Char → List Char
  | '&' => ['&', 'a', 'm', 'p', ';']
  | '<' => ['&', 'l', 't', ';']
  | '>' => ['&', 'g', 't', ';']
  | c => [c]

def startTag (name : String) : List Char := '<' :: (name.toList ++ ['>'])

def endTag (name : String) : List Char := '<' :: '/' :: (name.toList ++ ['>'])

/-- The content can be written like this. -/
inductive Writes : Content → List Char → Prop
  | done {blanks : List Char} (h : ∀ c ∈ blanks, isSpace c) : Writes .done blanks
  | text {s : String} (h : IsPlain s) : Writes (.text s .done) (s.toList.flatMap escape)
  | element {name : String} {inner rest : Content} {blanks s t : List Char}
      (hblanks : ∀ c ∈ blanks, isSpace c) (hname : IsWord name.toList) (hinner : Writes inner s)
      (hrest : Writes rest t) :
      Writes (.element (.plain name) [] inner rest)
        (blanks ++ startTag name ++ s ++ endTag name ++ t)

theorem writes_element_iff {name : String} {inner : Content} {s : List Char} :
    Writes (.element (.plain name) [] inner .done) s ↔ ∃ blanks body rest,
      s = blanks ++ startTag name ++ body ++ endTag name ++ rest ∧ (∀ c ∈ blanks, isSpace c) ∧
        IsWord name.toList ∧ Writes inner body ∧ ∀ c ∈ rest, isSpace c := by
  constructor
  · intro h
    cases h with
    | element hblanks hname hinner hrest =>
        cases hrest with
        | done hrest => exact ⟨_, _, _, rfl, hblanks, hname, hinner, hrest⟩
  · rintro ⟨blanks, body, rest, rfl, hblanks, hname, hinner, hrest⟩
    exact .element hblanks hname hinner (.done hrest)

/-- What a document may begin with. -/
def declaration : List Char := "<?xml version=\"1.0\" encoding=\"UTF-8\"?>".toList

/-- A document with this outermost element. -/
def WritesDocument (name : String) (inner : Content) (s : List Char) : Prop :=
  ∃ t, Writes (.element (.plain name) [] inner .done) t ∧ (s = t ∨ s = declaration ++ t)

namespace Content

def events : Content → List Event
  | .done | .fault => []
  | .text s rest => .text s :: rest.events
  | .element name attributes inner rest =>
      .start name attributes :: (inner.events ++ .stop :: rest.events)

theorem foldl_events {c : Content} {s : List Char} (h : Writes c s) (outer : List Content) :
    c.events.reverse.foldl prepend (.done :: outer) = c :: outer := by
  induction h generalizing outer with
  | done h => rfl
  | text h => rfl
  | element hblanks hname hinner hrest ihinner ihrest =>
      simp only [events, List.reverse_cons, List.reverse_append, List.foldl_append, ihrest,
        List.foldl_cons, List.foldl_nil, prepend, ihinner]

end Content

theorem code_of_isAlpha {c : Char} (h : c.isAlpha) :
    (0x41 ≤ c.toNat ∧ c.toNat ≤ 0x5A) ∨ (0x61 ≤ c.toNat ∧ c.toNat ≤ 0x7A) := by
  rcases Bool.or_eq_true_iff.1 h with h | h
  · exact .inl (of_decide_eq_true h)
  · obtain ⟨hlow, hhigh⟩ := Bool.and_eq_true_iff.1 h
    exact .inr ⟨of_decide_eq_true hlow, of_decide_eq_true hhigh⟩

theorem isNameStart_of_isAlpha {c : Char} (h : c.isAlpha) : isNameStart c := by
  have hcode := code_of_isAlpha h
  simp only [isNameStart, Ranges.contains, nameStartRanges, List.any_cons, Bool.or_eq_true,
    Bool.and_eq_true, decide_eq_true_eq]
  omega

theorem isSpace_iff {c : Char} : isSpace c ↔ c = ' ' ∨ c = '\t' ∨ c = '\n' ∨ c = '\r' := by
  simp [isSpace, or_assoc]

theorem beq_of_isAlpha {c d : Char} (h : c.isAlpha) (hd : d.isAlpha = false) :
    (c == d) = false := by
  rw [beq_eq_false_iff_ne]
  rintro rfl
  rw [h] at hd
  cases hd

theorem isSpace_of_isAlpha {c : Char} (h : c.isAlpha) : isSpace c = false := by
  rw [Bool.eq_false_iff, ne_eq, isSpace_iff]
  rintro (rfl | rfl | rfl | rfl) <;> exact absurd h (by decide)

theorem isSpace_of_printed {c : Char} (h : '!' ≤ c ∧ c ≤ '~') : isSpace c = false := by
  rw [Bool.eq_false_iff, ne_eq, isSpace_iff]
  rintro (rfl | rfl | rfl | rfl) <;> exact absurd h.1 (by decide)

theorem allows_of_printed {c : Char} (h : '!' ≤ c ∧ c ≤ '~') : Edition.first.allows c := by
  have hlow : 0x21 ≤ c.toNat := h.1
  have hhigh : c.toNat ≤ 0x7E := h.2
  simp only [Edition.allows, Bool.or_eq_true, Bool.and_eq_true, decide_eq_true_eq]
  omega

theorem IsWord.notMem {name : List Char} (h : IsWord name) {c : Char} (hc : c.isAlpha = false) :
    c ∉ name := by
  intro hmem
  rw [h.2 c hmem] at hc
  cases hc

namespace Name

theorem ofChars?_word {name : List Char} (h : IsWord name) :
    ofChars? name = some ⟨none, String.ofList name⟩ := by
  have hcolon := splitFirst_eq_none.2 (h.notMem (c := ':') (by decide))
  unfold ofChars?
  dsimp only
  rw [hcolon]
  dsimp only
  obtain ⟨hne, hall⟩ := h
  cases name with
  | nil => exact absurd rfl hne
  | cons c rest =>
      have hrest : rest.all isNameChar := by
        refine List.all_eq_true.2 fun d hd => Bool.or_eq_true_iff.2 (.inl ?_)
        exact isNameStart_of_isAlpha (hall d (List.mem_cons_of_mem _ hd))
      simp [isNameStart_of_isAlpha (hall c List.mem_cons_self), hrest]

end Name

namespace Tag

theorem ofChars?_word {name : List Char} (h : IsWord name) :
    ofChars? .first [] name = some ⟨⟨none, String.ofList name⟩, [], false⟩ := by
  have hslash : beforeTail? ['/'] name = none := by
    refine Option.eq_none_iff_forall_ne_some.2 fun front hfront => ?_
    rw [beforeTail?_eq_some_iff.1 hfront] at h
    exact h.notMem (c := '/') (by decide) (by simp)
  have hspace (c : Char) (hc : c ∈ name) : (!isSpace c) = true := by
    rw [isSpace_of_isAlpha (h.2 c hc), Bool.not_false]
  have hattributes : attributes? .first [] [] = some [] := by simp [attributes?]
  unfold ofChars?
  rw [hslash]
  simp [List.takeWhile_eq_self_iff.2 hspace, List.dropWhile_eq_nil_iff.2 hspace,
    Name.ofChars?_word h, hattributes]

theorem endName?_word {name : List Char} (h : IsWord name) :
    endName? name = some ⟨none, String.ofList name⟩ := by
  rw [endName?, dropEndWhile_eq_self, Name.ofChars?_word h]
  exact fun c hc => isSpace_of_isAlpha (h.2 c hc)

end Tag

namespace Reading

/-- Reads more characters. -/
def reads (r : Reading) (s : List Char) : Reading := s.foldl (fun r c => feed Subset.depth r [c]) r

theorem ofChars_eq (s : List Char) : ofChars s = reads {} s := rfl

theorem reads_append (r : Reading) (s t : List Char) : r.reads (s ++ t) = (r.reads s).reads t :=
  List.foldl_append

/-- Where nothing has to be replaced, characters are read one by one. -/
theorem reads_cons {r : Reading} {c : Char} (h : (r.step c).pending = []) (s : List Char) :
    r.reads (c :: s) = (r.step c).reads s := by
  have hfeed : feed Subset.depth r [c] = r.step c := by
    rw [feed.eq_def]
    dsimp only
    rw [h, if_pos List.isEmpty_nil, feed.eq_def]
  rw [reads, List.foldl_cons, hfeed]
  rfl

/-- Amid a document without attributes and entities, in elements with these names, the innermost
first. -/
def amid (phase : Phase) (names : List String) (run : List Char) (events : List Event)
    (begun : Bool) : Reading where
  phase := phase
  opened := names.map fun name => (⟨none, name⟩, Scope.outermost)
  run := run
  events := events
  begun := begun

variable {names : List String} {run : List Char} {events : List Event} {begun : Bool}

theorem reads_step {r : Reading} {c : Char} {phase : Phase}
    (h : r.step c = amid phase names run events begun) (s : List Char) :
    r.reads (c :: s) = (amid phase names run events begun).reads s := by
  have hpending : (r.step c).pending = [] := by
    rw [h]
    rfl
  rw [reads_cons hpending, h]

/-- The events after the run of text has ended. -/
def flushed (run : List Char) (events : List Event) : List Event :=
  let trimmed := dropEndWhile isSpace run.reverse |>.dropWhile isSpace
  if trimmed.isEmpty then events else .text (String.ofList trimmed) :: events

theorem flush_amid (phase : Phase) :
    (amid phase names run events begun).flush = amid phase names [] (flushed run events) begun := by
  unfold flush flushed
  dsimp only [amid]
  split <;> rfl

theorem flushed_nil : flushed [] events = events := rfl

theorem flushed_blanks {blanks : List Char} (h : ∀ c ∈ blanks, isSpace c) :
    flushed blanks.reverse events = events := by
  have htrimmed : dropEndWhile isSpace blanks = [] := by
    rw [dropEndWhile, List.dropWhile_eq_nil_iff.2 fun c hc => h c (List.mem_reverse.1 hc)]
    rfl
  rw [flushed, List.reverse_reverse, htrimmed]
  rfl

theorem flushed_text {s : String} (h : IsPlain s) :
    flushed s.toList.reverse events = .text s :: events := by
  have hspace (c : Char) (hc : c ∈ s.toList) : isSpace c = false := isSpace_of_printed (h.2 c hc)
  unfold flushed
  dsimp only
  rw [List.reverse_reverse, dropEndWhile_eq_self hspace, dropWhile_eq_self hspace,
    List.isEmpty_eq_false_iff.2 h.1, String.ofList_toList]
  rfl

theorem scope_amid (phase : Phase) :
    (amid phase names run events begun).scope = Scope.outermost := by
  cases names <;> rfl

theorem reads_bracket (n : Nat) (s : List Char) :
    (amid (.text n) names run events begun).reads ('<' :: s) =
      (amid .bracket names run events begun).reads s :=
  reads_cons rfl s

theorem step_letter {c : Char} (h : c.isAlpha) :
    (amid .bracket names run events begun).step c =
      amid (.tag none [c]) names [] (flushed run events) begun := by
  change stepBracket _ c = _
  unfold stepBracket
  rw [beq_of_isAlpha (d := '!') h (by decide), beq_of_isAlpha (d := '?') h (by decide),
    beq_of_isAlpha (d := '/') h (by decide), isNameStart_of_isAlpha h, flush_amid]
  rfl

theorem step_tag {c : Char} (h : c.isAlpha) (seen : List Char) :
    (amid (.tag none seen) names run events begun).step c =
      amid (.tag none (c :: seen)) names run events begun := by
  have hquote : ¬(c = '"' ∨ c = '\'') := by
    rintro (rfl | rfl) <;> exact absurd h (by decide)
  change stepTag _ none seen c = _
  unfold stepTag
  rw [beq_of_isAlpha (d := '<') h (by decide), beq_of_isAlpha (d := '>') h (by decide),
    if_neg hquote]
  rfl

theorem step_endTag {c : Char} (h : c.isAlpha) (seen : List Char) :
    (amid (.endTag seen) names run events begun).step c =
      amid (.endTag (c :: seen)) names run events begun := by
  change stepEndTag _ seen c = _
  unfold stepEndTag
  rw [beq_of_isAlpha (d := '>') h (by decide), beq_of_isAlpha (d := '<') h (by decide)]
  rfl

/-- Characters are gathered until something ends with another one. -/
theorem reads_gathering (phase : List Char → Phase) {P : Char → Prop}
    (hstep : ∀ c : Char, P c → ∀ seen, (amid (phase seen) names run events begun).step c =
      amid (phase (c :: seen)) names run events begun)
    {chars : List Char} (h : ∀ c ∈ chars, P c) (seen s : List Char) :
    (amid (phase seen) names run events begun).reads (chars ++ s) =
      (amid (phase (chars.reverse ++ seen)) names run events begun).reads s := by
  induction chars generalizing seen with
  | nil => rfl
  | cons c chars ih =>
      rw [List.cons_append, reads_step (hstep c (h c List.mem_cons_self) seen),
        ih (fun d hd => h d (List.mem_cons_of_mem _ hd)), List.reverse_cons, List.append_assoc]
      rfl

theorem openElement_amid (phase : Phase) (name : String) :
    (amid phase names [] events begun).openElement ⟨⟨none, name⟩, [], false⟩ =
      amid (.text 0) (name :: names) [] (.start (.plain name) [] :: events) true := by
  unfold openElement
  rw [scope_amid]
  rfl

theorem reads_startTag {name : String} (h : IsWord name.toList) (n : Nat) :
    (amid (.text n) names run events begun).reads (startTag name) =
      amid (.text 0) (name :: names) [] (.start (.plain name) [] :: flushed run events) true := by
  have hend : (amid (.tag none name.toList.reverse) names [] (flushed run events) begun).step '>' =
      amid (.text 0) (name :: names) [] (.start (.plain name) [] :: flushed run events) true := by
    change stepTag _ none name.toList.reverse '>' = _
    unfold stepTag
    dsimp only [amid]
    rw [List.reverse_reverse, Tag.ofChars?_word h, String.ofList_toList]
    exact openElement_amid _ name
  obtain ⟨c, letters, hname⟩ := List.exists_cons_of_ne_nil h.1
  have hall := h.2
  rw [hname] at hall hend
  rw [List.reverse_cons] at hend
  rw [startTag, hname, List.cons_append, reads_bracket,
    reads_step (step_letter (hall c List.mem_cons_self)),
    reads_gathering (.tag none) (fun _ hc => step_tag hc)
      (fun d hd => hall d (List.mem_cons_of_mem _ hd)), reads_step hend]
  rfl

/-- With the outermost element the document ends. -/
theorem close_amid (phase : Phase) (name : String) :
    (amid phase (name :: names) [] events true).close =
      amid (if names.isEmpty then .finished else .text 0) names [] (.stop :: events) true := by
  cases names <;> rfl

theorem reads_endTag {name : String} (h : IsWord name.toList) (n : Nat) :
    (amid (.text n) (name :: names) run events true).reads (endTag name) =
      amid (if names.isEmpty then .finished else .text 0) names []
        (.stop :: flushed run events) true := by
  have hslash : (amid .bracket (name :: names) run events true).step '/' =
      amid (.endTag []) (name :: names) [] (flushed run events) true := by
    change stepBracket _ '/' = _
    unfold stepBracket
    rw [flush_amid]
    rfl
  have hend : (amid (.endTag (name.toList.reverse ++ [])) (name :: names) [] (flushed run events)
      true).step '>' = amid (if names.isEmpty then .finished else .text 0) names []
        (.stop :: flushed run events) true := by
    change stepEndTag _ _ '>' = _
    unfold stepEndTag
    rw [List.append_nil, List.reverse_reverse, Tag.endName?_word h, String.ofList_toList,
      ← close_amid (.endTag name.toList.reverse) name]
    simp [amid]
  rw [endTag, reads_bracket, reads_step hslash,
    reads_gathering .endTag (fun _ hc => step_endTag hc) h.2, reads_step hend]
  rfl

/-- Characters that are nothing but text where they stand in an element. -/
theorem step_text {c : Char} (hallowed : Edition.first.allows c)
    (hmarkup : c ≠ '<' ∧ c ≠ '&' ∧ c ≠ '>') (name : String) (names : List String)
    (run : List Char) (events : List Event) (n : Nat) :
    ∃ n', (amid (.text n) (name :: names) run events true).step c =
      amid (.text n') (name :: names) (c :: run) events true := by
  obtain ⟨hopen, hreference, hclose⟩ := hmarkup
  change ∃ n', stepText _ n c = _
  unfold stepText
  rw [beq_eq_false_iff_ne.2 hopen, beq_eq_false_iff_ne.2 hreference, beq_eq_false_iff_ne.2 hclose]
  by_cases hbracket : c = ']'
  · subst hbracket
    exact ⟨n + 1, rfl⟩
  · refine ⟨0, ?_⟩
    rw [beq_eq_false_iff_ne.2 hbracket]
    simp only [amid, hallowed]
    rfl

theorem reads_blanks {blanks : List Char} (h : ∀ c ∈ blanks, isSpace c) (name : String)
    (names : List String) (run : List Char) (events : List Event) (n : Nat) :
    ∃ n', (amid (.text n) (name :: names) run events true).reads blanks =
      amid (.text n') (name :: names) (blanks.reverse ++ run) events true := by
  induction blanks generalizing n run with
  | nil => exact ⟨n, rfl⟩
  | cons c blanks ih =>
      have hspace := h c List.mem_cons_self
      have hallowed : Edition.first.allows c := Bool.or_eq_true_iff.2 (.inl hspace)
      have hmarkup : c ≠ '<' ∧ c ≠ '&' ∧ c ≠ '>' := by
        refine ⟨?_, ?_, ?_⟩ <;> rintro rfl <;> exact absurd hspace (by decide)
      obtain ⟨m, hm⟩ := step_text hallowed hmarkup name names run events n
      obtain ⟨n', hn'⟩ := ih (fun d hd => h d (List.mem_cons_of_mem _ hd)) (c :: run) m
      refine ⟨n', ?_⟩
      rw [reads_step hm, hn', List.reverse_cons, List.append_assoc]
      rfl

theorem step_reference {c : Char} (h : c.isAlpha) (seen : List Char) :
    (amid (.reference seen) names run events begun).step c =
      amid (.reference (c :: seen)) names run events begun := by
  change stepReference _ seen c = _
  unfold stepReference
  rw [beq_of_isAlpha (d := ';') h (by decide), isNameChar, isNameStart_of_isAlpha h]
  rfl

theorem reads_reference (word : List Char) {c : Char} (h : IsWord word)
    (hc : Reference.replacement? .first [] word = some (.char c)) (name : String) (n : Nat) :
    (amid (.text n) (name :: names) run events true).reads ('&' :: (word ++ [';'])) =
      amid (.text 0) (name :: names) (c :: run) events true := by
  have hstart : (amid (.text n) (name :: names) run events true).step '&' =
      amid (.reference []) (name :: names) run events true := rfl
  have hend : (amid (.reference (word.reverse ++ [])) (name :: names) run events true).step ';' =
      amid (.text 0) (name :: names) (c :: run) events true := by
    change stepReference _ _ ';' = _
    unfold stepReference
    dsimp only [amid]
    rw [List.append_nil, List.reverse_reverse, hc]
    rfl
  rw [reads_step hstart, reads_gathering .reference (fun _ hd => step_reference hd) h.2,
    reads_step hend]
  rfl

/-- Every character is read back from the form that it has in text. -/
theorem reads_escape {c : Char} (h : '!' ≤ c ∧ c ≤ '~') (name : String) (names : List String)
    (run : List Char) (events : List Event) (n : Nat) :
    ∃ n', (amid (.text n) (name :: names) run events true).reads (escape c) =
      amid (.text n') (name :: names) (c :: run) events true := by
  unfold escape
  split
  · exact ⟨0, reads_reference ['a', 'm', 'p'] (by decide) rfl name n⟩
  · exact ⟨0, reads_reference ['l', 't'] (by decide) rfl name n⟩
  · exact ⟨0, reads_reference ['g', 't'] (by decide) rfl name n⟩
  · rename_i hreference hopen hclose
    obtain ⟨n', hn'⟩ := step_text (allows_of_printed h) ⟨hopen, hreference, hclose⟩ name names run
      events n
    exact ⟨n', reads_step hn' []⟩

theorem reads_text {chars : List Char} (h : ∀ c ∈ chars, '!' ≤ c ∧ c ≤ '~') (name : String)
    (names : List String) (run : List Char) (events : List Event) (n : Nat) :
    ∃ n', (amid (.text n) (name :: names) run events true).reads (chars.flatMap escape) =
      amid (.text n') (name :: names) (chars.reverse ++ run) events true := by
  induction chars generalizing n run with
  | nil => exact ⟨n, rfl⟩
  | cons c chars ih =>
      obtain ⟨m, hm⟩ := reads_escape (h c List.mem_cons_self) name names run events n
      obtain ⟨n', hn'⟩ := ih (fun d hd => h d (List.mem_cons_of_mem _ hd)) (c :: run) m
      refine ⟨n', ?_⟩
      rw [List.flatMap_cons, reads_append, hm, hn', List.reverse_cons, List.append_assoc]
      rfl

/-- Content is read into its events. The last text may not have ended yet. -/
theorem reads_content {c : Content} {s : List Char} (h : Writes c s) (name : String)
    (names : List String) (events : List Event) (n : Nat) :
    ∃ n' run' events', flushed run' events' = c.events.reverse ++ events ∧
      (amid (.text n) (name :: names) [] events true).reads s =
        amid (.text n') (name :: names) run' events' true := by
  -- Text and blanks at the end go on into the run, which only the next tag flushes.
  induction h generalizing name names events n with
  | @done blanks h =>
      obtain ⟨n', hn'⟩ := reads_blanks h name names [] events n
      exact ⟨n', _, events, by rw [List.append_nil, flushed_blanks h]; rfl, hn'⟩
  | @text s h =>
      obtain ⟨n', hn'⟩ := reads_text h.2 name names [] events n
      exact ⟨n', _, events, by rw [List.append_nil, flushed_text h]; rfl, hn'⟩
  | @element child inner rest blanks s t hblanks hname hinner hrest ihinner ihrest =>
      obtain ⟨n₁, hn₁⟩ := reads_blanks hblanks name names [] events n
      obtain ⟨n₂, run₂, events₂, hflushed₂, hn₂⟩ :=
        ihinner child (name :: names) (.start (.plain child) [] :: events) 0
      obtain ⟨n₃, run₃, events₃, hflushed₃, hn₃⟩ :=
        ihrest name names (.stop :: flushed run₂ events₂) 0
      refine ⟨n₃, run₃, events₃, ?_, ?_⟩
      · rw [hflushed₃, hflushed₂]
        simp [Content.events]
      · simp only [reads_append]
        rw [hn₁, reads_startTag hname, List.append_nil, flushed_blanks hblanks, hn₂,
          reads_endTag hname]
        exact hn₃

theorem reads_finished (s : List Char) :
    (amid .finished names run events begun).reads s = amid .finished names run events begun := by
  induction s with
  | nil => rfl
  | cons c s ih =>
      have hstep : (amid .finished names run events begun).step c =
        amid .finished names run events begun := rfl
      rw [reads_step hstep, ih]

theorem reads_outer_blanks {blanks : List Char} (h : ∀ c ∈ blanks, isSpace c) (begun : Bool)
    (n : Nat) :
    ∃ n' begun', (amid (.text n) [] [] [] begun).reads blanks =
      amid (.text n') [] [] [] begun' := by
  induction blanks generalizing n begun with
  | nil => exact ⟨n, begun, rfl⟩
  | cons c blanks ih =>
      have hspace := h c List.mem_cons_self
      have hstep : (amid (.text n) [] [] [] begun).step c = amid (.text 0) [] [] [] true := by
        have hopen : (c == '<') = false := by
          rw [beq_eq_false_iff_ne]
          rintro rfl
          exact absurd hspace (by decide)
        change stepText _ n c = _
        unfold stepText
        simp only [hopen, amid, Edition.allows, hspace]
        rfl
      obtain ⟨n', begun', hn'⟩ := ih (fun d hd => h d (List.mem_cons_of_mem _ hd)) true 0
      exact ⟨n', begun', by rw [reads_step hstep, hn']⟩

/-- The outermost element is read into its events, whatever follows it. -/
theorem reads_element {name : String} {inner : Content} {s : List Char}
    (h : Writes (.element (.plain name) [] inner .done) s) :
    (amid (.text 0) [] [] [] begun).reads s = amid .finished [] []
      (Content.events (.element (.plain name) [] inner .done)).reverse true := by
  obtain ⟨blanks, body, rest, rfl, hblanks, hname, hinner, -⟩ := writes_element_iff.1 h
  obtain ⟨n₁, begun₁, hn₁⟩ := reads_outer_blanks hblanks begun 0
  obtain ⟨n₂, run, events, hflushed, hn₂⟩ :=
    reads_content hinner name [] [.start (.plain name) []] 0
  simp only [reads_append]
  rw [hn₁, reads_startTag hname, flushed_nil, hn₂, reads_endTag hname, hflushed, List.isEmpty_nil,
    if_pos rfl, reads_finished]
  simp [Content.events]

theorem step_instruction {c : Char} (h : c ≠ '>') (seen : List Char) :
    (amid (.instruction seen) names run events begun).step c =
      amid (.instruction (c :: seen)) names run events begun := by
  change stepInstruction _ seen c = _
  unfold stepInstruction
  split
  · exact absurd rfl h
  · rfl

theorem reads_declaration :
    (amid (.text 0) [] [] [] false).reads declaration = amid (.text 0) [] [] [] true := by
  have hchars : declaration =
      '<' :: '?' :: ("xml version=\"1.0\" encoding=\"UTF-8\"?".toList ++ ['>']) := rfl
  have hbody : '>' ∉ "xml version=\"1.0\" encoding=\"UTF-8\"?".toList := by decide
  have hstart : (amid .bracket [] [] [] false).step '?' = amid (.instruction []) [] [] [] false :=
    rfl
  have hend : (amid (.instruction ("xml version=\"1.0\" encoding=\"UTF-8\"?".toList.reverse ++ []))
      [] [] [] false).step '>' = amid (.text 0) [] [] [] true := rfl
  rw [hchars, reads_bracket, reads_step hstart,
    reads_gathering .instruction (fun _ hc => step_instruction hc)
      (fun _ hc => ne_of_mem_of_not_mem hc hbody), reads_step hend]
  rfl

end Reading

theorem Content.ofReading_writesDocument {name : String} {inner : Content} {s : List Char}
    (h : WritesDocument name inner s) :
    Content.ofReading (.ofChars s) = .element (.plain name) [] inner .done := by
  obtain ⟨t, ht, hs⟩ := h
  have hread : Reading.ofChars s = Reading.amid .finished [] []
      (events (.element (.plain name) [] inner .done)).reverse true := by
    rw [Reading.ofChars_eq]
    rcases hs with rfl | rfl
    · exact Reading.reads_element ht
    · rw [Reading.reads_append]
      refine (congrArg (Reading.reads · t) Reading.reads_declaration).trans ?_
      exact Reading.reads_element ht
  rw [hread]
  change ((events _).reverse.foldl prepend [.done]).headD .fault = _
  rw [foldl_events ht]
  rfl

end Markup

end Depot
