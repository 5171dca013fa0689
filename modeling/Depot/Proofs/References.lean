import Depot.Proofs.Negotiation
import Mathlib.Data.List.Forall2

/-!
How references are found. A text is cut at its first reference, what follows that one at its first
reference, and so on, which can be done in one way only. Values take the place of the names, the
parts between stay, and what was put in is not looked at.
-/

namespace Depot.Credentials

open Text

/-- A dollar sign and a name in braces, whatever is before and after them. -/
structure IsReference (text before name after : List Char) : Prop where
  split : text = before ++ '$' :: '\x7b' :: (name ++ '\x7d' :: after)
  closed : '\x7d' ∉ name

/-- No reference of the text begins before this one. -/
structure IsFirstReference (text before name after : List Char) : Prop
    extends IsReference text before name after where
  first : ∀ {before' name' after'}, IsReference text before' name' after' →
    before.length ≤ before'.length

/-- The text in front of each reference with the name of that reference, and the text behind the
last one. -/
inductive IsCut : List Char → List (List Char × List Char) → List Char → Prop
  | plain {text : List Char} : (∀ before name after, ¬IsReference text before name after) →
      IsCut text [] text
  | reference {text before name after last : List Char} {parts : List (List Char × List Char)} :
      IsFirstReference text before name after → IsCut after parts last →
      IsCut text ((before, name) :: parts) last

variable {c : Char} {text before name after before' name' after' last last' : List Char}
  {parts parts' : List (List Char × List Char)}

theorem IsReference.cons (h : IsReference text before name after) (c : Char) :
    IsReference (c :: text) (c :: before) name after :=
  ⟨by rw [h.split]; rfl, h.closed⟩

theorem IsReference.of_cons (h : IsReference (c :: text) (c :: before) name after) :
    IsReference text before name after :=
  ⟨List.tail_eq_of_cons_eq h.split, h.closed⟩

/-- A reference begins with the text or is one of the rest. -/
theorem IsReference.cases (h : IsReference (c :: text) before name after) :
    before = [] ∨ ∃ before', before = c :: before' ∧ IsReference text before' name after := by
  cases before with
  | nil => exact .inl rfl
  | cons d before =>
      obtain rfl := List.head_eq_of_cons_eq h.split
      exact .inr ⟨before, rfl, h.of_cons⟩

theorem IsReference.closing_mem (h : IsReference text before name after) : '\x7d' ∈ text := by
  rw [h.split]
  simp

theorem IsReference.length_lt (h : IsReference text before name after) :
    after.length < text.length := by
  rw [h.split]
  simp
  omega

/-- Where two references begin at one place they are one. -/
theorem IsReference.unique (h : IsReference text before name after)
    (h' : IsReference text before' name' after') (hlength : before.length = before'.length) :
    before = before' ∧ name = name' ∧ after = after' := by
  obtain ⟨rfl, hrest⟩ := List.append_inj (h.split.symm.trans h'.split) hlength
  simp only [List.cons.injEq, true_and] at hrest
  have hsplit : splitFirst '\x7d' (name ++ '\x7d' :: after) = some (name, after) :=
    splitFirst_append h.closed
  rw [hrest, splitFirst_append h'.closed, Option.some.injEq, Prod.mk.injEq] at hsplit
  exact ⟨rfl, hsplit.1.symm, hsplit.2.symm⟩

theorem IsFirstReference.unique (h : IsFirstReference text before name after)
    (h' : IsFirstReference text before' name' after') :
    before = before' ∧ name = name' ∧ after = after' :=
  h.toIsReference.unique h'.toIsReference
    (Nat.le_antisymm (h.first h'.toIsReference) (h'.first h.toIsReference))

theorem exists_isFirstReference (text : List Char) :
    (∀ before name after, ¬IsReference text before name after) ∨
      ∃ before name after, IsFirstReference text before name after := by
  induction text with
  | nil => exact .inl fun _ _ _ h => by simpa using h.closing_mem
  | cons c text ih =>
      -- A reference that begins with the text is before all others.
      by_cases hhere : ∃ name after, IsReference (c :: text) [] name after
      · obtain ⟨name, after, h⟩ := hhere
        exact .inr ⟨[], name, after, h, fun _ => Nat.zero_le _⟩
      · have hlater {before name after} (h : IsReference (c :: text) before name after) :
            ∃ before', before = c :: before' ∧ IsReference text before' name after := by
          refine h.cases.resolve_left ?_
          rintro rfl
          exact hhere ⟨name, after, h⟩
        rcases ih with hnone | ⟨before, name, after, h⟩
        · refine .inl fun before name after h => ?_
          obtain ⟨before', -, h'⟩ := hlater h
          exact hnone _ _ _ h'
        · refine .inr ⟨c :: before, name, after, h.cons c, fun h' => ?_⟩
          obtain ⟨before', rfl, hrest⟩ := hlater h'
          exact Nat.succ_le_succ (h.first hrest)

theorem exists_isCut (text : List Char) : ∃ parts last, IsCut text parts last := by
  rcases exists_isFirstReference text with hnone | ⟨before, name, after, h⟩
  · exact ⟨[], text, .plain hnone⟩
  · have := h.length_lt
    obtain ⟨parts, last, hcut⟩ := exists_isCut after
    exact ⟨(before, name) :: parts, last, .reference h hcut⟩
termination_by text.length

theorem IsCut.unique (h : IsCut text parts last) (h' : IsCut text parts' last') :
    parts = parts' ∧ last = last' := by
  induction h generalizing parts' with
  | plain hnone =>
      cases h' with
      | plain => exact ⟨rfl, rfl⟩
      | reference hfirst => exact absurd hfirst.toIsReference (hnone _ _ _)
  | reference hfirst _ ih =>
      cases h' with
      | plain hnone => exact absurd hfirst.toIsReference (hnone _ _ _)
      | reference hfirst' hcut =>
          obtain ⟨rfl, rfl, rfl⟩ := hfirst.unique hfirst'
          obtain ⟨rfl, rfl⟩ := ih hcut
          exact ⟨rfl, rfl⟩

section Values

variable {lookup : String → Option String}

theorem substitute?_of_notMem (h : '\x7d' ∉ text) : substitute? lookup text = some text := by
  fun_induction substitute? lookup text with
  | case1 => rfl
  | case2 rest hopen => rfl
  | case3 rest name after hclose =>
      rw [(splitFirst_eq_some hclose).1] at h
      simp at h
  | case4 c rest hother ih =>
      rw [List.mem_cons, not_or] at h
      rw [ih h.2, Option.map_some]

/-- What begins no reference stays. -/
theorem substitute?_cons (h : ∀ name after, ¬IsReference (c :: text) [] name after) :
    substitute? lookup (c :: text) = (substitute? lookup text).map (c :: ·) := by
  by_cases hopen : ∃ rest, c = '$' ∧ text = '\x7b' :: rest
  · obtain ⟨rest, rfl, rfl⟩ := hopen
    cases hclose : splitFirst '\x7d' rest with
    | none =>
        have hrest : '\x7d' ∉ '\x7b' :: rest := by
          simpa using splitFirst_eq_none.1 hclose
        rw [substitute?_unclosed hclose, substitute?_of_notMem hrest, Option.map_some]
    | some p =>
        obtain ⟨name, after⟩ := p
        obtain ⟨rfl, hclosed⟩ := splitFirst_eq_some hclose
        exact absurd ⟨rfl, hclosed⟩ (h name after)
  · rw [substitute?]
    rintro rest rfl rfl
    exact hopen ⟨rest, rfl, rfl⟩

theorem substitute?_of_no_reference (h : ∀ before name after, ¬IsReference text before name after) :
    substitute? lookup text = some text := by
  induction text with
  | nil => rw [substitute?]
  | cons c text ih =>
      rw [substitute?_cons fun name after => h [] name after,
        ih fun before name after hrest => h _ _ _ (hrest.cons c), Option.map_some]

theorem substitute?_of_isFirstReference (h : IsFirstReference text before name after) :
    substitute? lookup text = (reference? lookup name).bind fun value =>
      (substitute? lookup after).map (before ++ value.toList ++ ·) := by
  induction before generalizing text with
  | nil =>
      rw [h.split, List.nil_append, substitute?_closed (splitFirst_append h.closed)]
      rfl
  | cons c before ih =>
      obtain rfl : text = c :: before ++ '$' :: '\x7b' :: (name ++ '\x7d' :: after) := h.split
      have hrest : IsFirstReference (before ++ '$' :: '\x7b' :: (name ++ '\x7d' :: after))
          before name after :=
        ⟨⟨rfl, h.closed⟩, fun h' => Nat.le_of_succ_le_succ (h.first (h'.cons c))⟩
      have hnone (name' after' : List Char) : ¬IsReference
          (c :: (before ++ '$' :: '\x7b' :: (name ++ '\x7d' :: after))) [] name' after' := fun h' =>
        Nat.not_succ_le_zero _ (h.first h')
      rw [List.cons_append, substitute?_cons hnone, ih hrest]
      cases reference? lookup name with
      | none => rfl
      | some value => cases substitute? lookup after <;> rfl

/-- A name that refers to the environment, and what the variable is set to. -/
def HasValue (lookup : String → Option String) (name : List Char) (value : String) : Prop :=
  ∃ key, name = "env.".toList ++ key ∧ lookup (String.ofList key) = some value

theorem reference?_eq_some_iff {value : String} :
    reference? lookup name = some value ↔ HasValue lookup name value := by
  rw [reference?, Option.bind_eq_some_iff, HasValue]
  simp only [afterLead?_eq_some_iff]
  rfl

/-- The text with values in place of its references. -/
def filledWith (parts : List (List Char × List Char)) (values : List String) (last : List Char) :
    List Char :=
  (List.zipWith (fun part value => part.1 ++ value.toList) parts values).flatten ++ last

theorem IsCut.substitute?_eq_some_iff (h : IsCut text parts last) {filled : List Char} :
    substitute? lookup text = some filled ↔ ∃ values,
      List.Forall₂ (fun part => HasValue lookup part.2) parts values ∧
        filled = filledWith parts values last := by
  induction h generalizing filled with
  | plain hnone =>
      rw [substitute?_of_no_reference hnone, Option.some.injEq]
      simp [filledWith, eq_comm]
  | @reference text before name after last parts hfirst _ ih =>
      rw [substitute?_of_isFirstReference hfirst, Option.bind_eq_some_iff]
      simp only [Option.map_eq_some_iff, ih, reference?_eq_some_iff]
      constructor
      · rintro ⟨value, hvalue, _, ⟨values, hvalues, rfl⟩, rfl⟩
        exact ⟨value :: values, .cons hvalue hvalues, by simp [filledWith]⟩
      · rintro ⟨_, hall, rfl⟩
        cases hall with
        | cons hvalue hvalues =>
            exact ⟨_, hvalue, _, ⟨_, hvalues, rfl⟩, by simp [filledWith]⟩

theorem exists_forall₂_hasValue (parts : List (List Char × List Char)) :
    (∃ values, List.Forall₂ (fun part => HasValue lookup part.2) parts values) ↔
      ∀ part ∈ parts, ∃ value, HasValue lookup part.2 value := by
  induction parts with
  | nil => simp
  | cons part parts ih =>
      rw [List.forall_mem_cons, ← ih]
      constructor
      · rintro ⟨_, hall⟩
        cases hall with
        | cons hvalue hvalues => exact ⟨⟨_, hvalue⟩, _, hvalues⟩
      · rintro ⟨⟨value, hvalue⟩, values, hvalues⟩
        exact ⟨value :: values, .cons hvalue hvalues⟩

end Values

/-- The text with its references between the parts. -/
def joined (parts : List (List Char × List Char)) (last : List Char) : List Char :=
  parts.flatMap (fun (before, name) => before ++ "$\x7b".toList ++ name ++ ['\x7d']) ++ last

theorem IsCut.text_eq (h : IsCut text parts last) : text = joined parts last := by
  induction h with
  | plain => rfl
  | reference hfirst _ ih =>
      rw [hfirst.split]
      conv_lhs => rw [ih]
      simp [joined]

theorem exists_resolve?_iff (lookup : String → Option String) (c : Credentials) :
    (∃ r, c.resolve? lookup = some r) ↔
      (∃ username, substitute? lookup c.username.toList = some username) ∧
        ∃ password, substitute? lookup c.password.toList = some password := by
  rw [resolve?]
  cases substitute? lookup c.username.toList <;> cases substitute? lookup c.password.toList <;> simp

/-- Every text is cut at its references in one way only, and can be resolved if and only if all
their names refer to variables that are set. The values of these then stand between the other parts,
as they are. Text without a reference is not changed, and credentials are resolved part by part. -/
theorem substitute?_isOnePass (lookup : String → Option String) :
    (∀ text, ∃ parts last, IsCut text parts last ∧
      (∀ parts' last', IsCut text parts' last' → parts' = parts ∧ last' = last) ∧
      text = joined parts last ∧
      ((∃ filled, substitute? lookup text = some filled) ↔
        ∀ part ∈ parts, ∃ value, HasValue lookup part.2 value) ∧
      ∀ values, List.Forall₂ (fun part => HasValue lookup part.2) parts values →
        substitute? lookup text = some (filledWith parts values last)) ∧
    (∀ text, (∀ before name after, ¬IsReference text before name after) →
      substitute? lookup text = some text) ∧
    ∀ c : Credentials,
      ((∃ r, c.resolve? lookup = some r) ↔
        (∃ username, substitute? lookup c.username.toList = some username) ∧
          ∃ password, substitute? lookup c.password.toList = some password) ∧
      ∀ r, c.resolve? lookup = some r ↔
        substitute? lookup c.username.toList = some r.username.toList ∧
          substitute? lookup c.password.toList = some r.password.toList := by
  refine ⟨fun text => ?_, fun _ => substitute?_of_no_reference, fun c =>
    ⟨exists_resolve?_iff lookup c, fun r => ?_⟩⟩
  · obtain ⟨parts, last, hcut⟩ := exists_isCut text
    refine ⟨parts, last, hcut, fun parts' last' hcut' => hcut'.unique hcut, hcut.text_eq, ?_,
      fun values hvalues => hcut.substitute?_eq_some_iff.2 ⟨values, hvalues, rfl⟩⟩
    rw [← exists_forall₂_hasValue]
    simp only [hcut.substitute?_eq_some_iff]
    constructor
    · rintro ⟨_, values, hvalues, -⟩
      exact ⟨values, hvalues⟩
    · rintro ⟨values, hvalues⟩
      exact ⟨_, values, hvalues, rfl⟩
  · rw [resolve?_eq_some_iff, ResolvesTo, substitute?_eq_filled?, substitute?_eq_filled?]

end Depot.Credentials
