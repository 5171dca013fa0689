import Depot.Proofs.SnapshotChoice

/-!
How merging behaves as an operation. Each field is combined by a rule of its own, but all the rules
are associative, and none lets a document that was merged before count again. So neither the
grouping of documents nor their repetitions matter to what a list of them is merged to.
-/

namespace Depot.Metadata

section Appending

variable {α : Type} [BEq α] {x : α} {xs ys zs : List α}

/-- Appends the elements that are not there yet. -/
def appendNew (xs ys : List α) : List α :=
  ys.foldl (fun xs y => if xs.contains y then xs else xs ++ [y]) xs

theorem appendNew_append : appendNew xs (ys ++ zs) = appendNew (appendNew xs ys) zs :=
  List.foldl_append

variable [LawfulBEq α]

theorem appendNew_cons_of_mem (h : x ∈ xs) : appendNew xs (x :: ys) = appendNew xs ys := by
  rw [appendNew, List.foldl_cons, if_pos (by simpa using h)]
  rfl

theorem appendNew_cons_of_notMem (h : x ∉ xs) :
    appendNew xs (x :: ys) = appendNew (xs ++ [x]) ys := by
  rw [appendNew, List.foldl_cons, if_neg (by simpa using h)]
  rfl

theorem mem_appendNew : x ∈ appendNew xs ys ↔ x ∈ xs ∨ x ∈ ys := by
  induction ys generalizing xs with
  | nil => simp [appendNew]
  | cons y ys ih =>
      by_cases h : y ∈ xs
      · rw [appendNew_cons_of_mem h, ih, List.mem_cons]
        constructor
        · exact Or.imp_right .inr
        · rintro (hx | rfl | hx)
          · exact .inl hx
          · exact .inl h
          · exact .inr hx
      · rw [appendNew_cons_of_notMem h, ih, List.mem_append, List.mem_singleton, List.mem_cons,
          or_assoc]

/-- An element that is new to the middle list is new to both lists or to none, so it does not matter
which list it is appended to first. -/
theorem appendNew_assoc : appendNew (appendNew xs ys) zs = appendNew xs (appendNew ys zs) := by
  induction zs generalizing ys with
  | nil => rfl
  | cons z zs ih =>
      by_cases h : z ∈ ys
      · rw [appendNew_cons_of_mem h, appendNew_cons_of_mem (mem_appendNew.2 (.inr h)), ih]
      · rw [appendNew_cons_of_notMem h, ← ih, appendNew_append]
        rfl

theorem appendNew_of_subset (h : ys ⊆ xs) : appendNew xs ys = xs := by
  induction ys with
  | nil => rfl
  | cons y ys ih =>
      rw [List.cons_subset] at h
      rw [appendNew_cons_of_mem h.1, ih h.2]

theorem appendNew_appendNew_self : appendNew (appendNew xs ys) xs = appendNew xs ys :=
  appendNew_of_subset fun _ hx => mem_appendNew.2 (.inl hx)

theorem nodup_appendNew (h : xs.Nodup) : (appendNew xs ys).Nodup := by
  induction ys generalizing xs with
  | nil => exact h
  | cons y ys ih =>
      by_cases hy : y ∈ xs
      · rw [appendNew_cons_of_mem hy]
        exact ih h
      · rw [appendNew_cons_of_notMem hy]
        refine ih (List.nodup_append.2 ⟨h, by simp, ?_⟩)
        rintro x hx z hz rfl
        exact hy (List.mem_singleton.1 hz ▸ hx)

theorem appendNew_of_nodup (h : (xs ++ ys).Nodup) : appendNew xs ys = xs ++ ys := by
  induction ys generalizing xs with
  | nil => simp [appendNew]
  | cons y ys ih =>
      have hy : y ∉ xs := fun hmem =>
        (List.nodup_append.1 h).2.2 y hmem y List.mem_cons_self rfl
      rw [appendNew_cons_of_notMem hy, ih (by simpa using h), List.append_assoc,
        List.singleton_append]

theorem eraseDups_concat_of_mem (h : x ∈ xs) : (xs ++ [x]).eraseDups = xs.eraseDups := by
  simp [List.eraseDups_append, List.removeAll, h]

theorem eraseDups_concat_of_notMem (h : x ∉ xs) :
    (xs ++ [x]).eraseDups = xs.eraseDups ++ [x] := by
  simp [List.eraseDups_append, List.removeAll, h, List.eraseDups_cons]

theorem eraseDups_eq_appendNew (xs : List α) : xs.eraseDups = appendNew [] xs := by
  induction xs using List.reverseRecOn with
  | nil => rfl
  | append_singleton xs x ih =>
      rw [appendNew_append, ← ih]
      by_cases h : x ∈ xs
      · rw [eraseDups_concat_of_mem h, appendNew_cons_of_mem (List.mem_eraseDups.2 h)]
        rfl
      · rw [eraseDups_concat_of_notMem h,
          appendNew_cons_of_notMem (mt List.mem_eraseDups.1 h)]
        rfl

end Appending

theorem distinct_eq_appendNew (xs : List String) : distinct xs = appendNew [] xs :=
  eraseDups_eq_appendNew xs

theorem appendNew_distinct (xs ys : List String) :
    appendNew xs (distinct ys) = appendNew xs ys := by
  rw [distinct_eq_appendNew, ← appendNew_assoc]
  rfl

theorem distinct_append (xs ys : List String) :
    distinct (xs ++ ys) = appendNew (distinct xs) ys := by
  rw [distinct_eq_appendNew, distinct_eq_appendNew, appendNew_append]

theorem distinct_distinct (xs : List String) : distinct (distinct xs) = distinct xs := by
  rw [distinct_eq_appendNew, appendNew_distinct, ← distinct_eq_appendNew]

theorem distinct_eq_self_iff {xs : List String} : distinct xs = xs ↔ xs.Nodup := by
  rw [distinct_eq_appendNew]
  constructor
  · intro h
    rw [← h]
    exact nodup_appendNew List.nodup_nil
  · intro h
    rw [appendNew_of_nodup (by simpa using h), List.nil_append]

theorem distinct_append_assoc (xs ys zs : List String) :
    distinct (distinct (xs ++ ys) ++ zs) = distinct (xs ++ distinct (ys ++ zs)) := by
  rw [distinct_append, distinct_distinct, distinct_append, distinct_append, appendNew_distinct,
    appendNew_append]

theorem distinct_append_self (xs ys : List String) :
    distinct (distinct (xs ++ ys) ++ xs) = distinct (xs ++ ys) := by
  rw [distinct_append, distinct_distinct]
  refine appendNew_of_subset fun x hx => ?_
  exact List.mem_eraseDups.2 (List.mem_append_left ys hx)

section Greatest

variable {α : Type} (key : α → String)

/-- The first of the two whose key is greatest. -/
def firstGreatest : Option α → Option α → Option α
  | some a, some b => if key a < key b then some b else some a
  | some a, none => some a
  | none, b => b

theorem firstGreatest_none (x : Option α) : firstGreatest key x none = x := by cases x <;> rfl

theorem firstGreatest_assoc (x y z : Option α) :
    firstGreatest key (firstGreatest key x y) z = firstGreatest key x (firstGreatest key y z) := by
  cases x with
  | none => rfl
  | some a =>
      cases y with
      | none => rfl
      | some b =>
          cases z with
          | none => rw [firstGreatest_none, firstGreatest_none]
          | some c =>
              by_cases hab : key a < key b
              · by_cases hbc : key b < key c
                · simp [firstGreatest, hab, hbc, String.lt_trans hab hbc]
                · simp [firstGreatest, hab, hbc]
              · by_cases hbc : key b < key c
                · simp [firstGreatest, hab, hbc]
                · have hac : ¬key a < key c :=
                    String.not_lt.2 (String.le_trans (String.not_lt.1 hbc) (String.not_lt.1 hab))
                  simp [firstGreatest, hab, hbc, hac]

theorem firstGreatest_absorb (x y : Option α) :
    firstGreatest key (firstGreatest key x y) x = firstGreatest key x y := by
  cases x with
  | none => cases y <;> rfl
  | some a =>
      cases y with
      | none => simp [firstGreatest]
      | some b =>
          by_cases hab : key a < key b
          · simp [firstGreatest, hab, String.lt_asymm hab]
          · simp [firstGreatest, hab]

theorem firstGreatest_self (x : Option α) : firstGreatest key x x = x := by
  cases x with
  | none => rfl
  | some a => simp [firstGreatest]

end Greatest

theorem laterBuild_eq_firstGreatest (x y : Option SnapshotBuild) :
    laterBuild x y = firstGreatest SnapshotBuild.timestamp x y := by
  cases x <;> cases y <;> rfl

theorem greater_eq_firstGreatest (x y : Option String) : greater x y = firstGreatest id x y := by
  cases x <;> cases y <;> rfl

theorem merge_assoc (a b c : Metadata) : (a.merge b).merge c = a.merge (b.merge c) := by
  simp only [merge, Metadata.mk.injEq, laterBuild_eq_firstGreatest, greater_eq_firstGreatest]
  exact ⟨trivial, trivial, Option.or_assoc, Option.or_assoc, Option.or_assoc,
    distinct_append_assoc .., firstGreatest_assoc .., appendNew_assoc, firstGreatest_assoc ..⟩

theorem merge_absorb (a b : Metadata) : (a.merge b).merge a = a.merge b := by
  have hor (x y : Option String) : (x.or y).or x = x.or y := by cases x <;> cases y <;> rfl
  simp only [merge, Metadata.mk.injEq, laterBuild_eq_firstGreatest, greater_eq_firstGreatest]
  exact ⟨trivial, trivial, hor .., hor .., hor .., distinct_append_self ..,
    firstGreatest_absorb .., appendNew_appendNew_self, firstGreatest_absorb ..⟩

/-- Only repeated versions are lost when a document is merged with itself. -/
theorem merge_self (a : Metadata) : a.merge a = { a with versions := distinct a.versions } := by
  have hversions : distinct (a.versions ++ a.versions) = distinct a.versions := by
    rw [distinct_append]
    exact appendNew_of_subset fun x hx => List.mem_eraseDups.2 hx
  have hfiles : addFiles a.snapshotFiles a.snapshotFiles = a.snapshotFiles :=
    appendNew_of_subset (List.Subset.refl _)
  simp only [merge, laterBuild_eq_firstGreatest, greater_eq_firstGreatest, firstGreatest_self,
    Option.or_self, hversions, hfiles]

theorem merge_self_eq_iff (a : Metadata) : a.merge a = a ↔ a.versions.Nodup := by
  rw [merge_self, ← distinct_eq_self_iff]
  constructor
  · exact congrArg versions
  · intro h
    rw [h]

/-- Documents in the order of preference, grouped in pairs. -/
inductive Grouping
  | document (m : Metadata)
  | pair (left right : Grouping)

namespace Grouping

def documents : Grouping → List Metadata
  | document m => [m]
  | pair left right => left.documents ++ right.documents

/-- What the documents are merged to, pair by pair. -/
def merged : Grouping → Metadata
  | document m => m
  | pair left right => left.merged.merge right.merged

theorem exists_documents_eq_cons (g : Grouping) : ∃ first rest, g.documents = first :: rest := by
  induction g with
  | document m => exact ⟨m, [], rfl⟩
  | pair left right ihl _ =>
      obtain ⟨first, rest, h⟩ := ihl
      exact ⟨first, rest ++ right.documents, by rw [documents, h, List.cons_append]⟩

end Grouping

theorem mergeAll_concat (first : Metadata) (rest : List Metadata) (d : Metadata) :
    mergeAll first (rest ++ [d]) = (mergeAll first rest).merge d := by
  rw [mergeAll, List.foldl_append]
  rfl

theorem merge_mergeAll (a first : Metadata) (rest : List Metadata) :
    a.merge (mergeAll first rest) = mergeAll (a.merge first) rest := by
  induction rest generalizing first with
  | nil => rfl
  | cons d rest ih =>
      calc a.merge (mergeAll first (d :: rest))
          = mergeAll (a.merge (first.merge d)) rest := ih (first.merge d)
        _ = mergeAll ((a.merge first).merge d) rest := by rw [merge_assoc]

theorem mergeAll_append (first second : Metadata) (rest more : List Metadata) :
    mergeAll first (rest ++ second :: more) =
      (mergeAll first rest).merge (mergeAll second more) := by
  rw [merge_mergeAll, mergeAll, List.foldl_append]
  rfl

theorem Grouping.merged_eq {g : Grouping} {first : Metadata} {rest : List Metadata}
    (h : g.documents = first :: rest) : g.merged = mergeAll first rest := by
  induction g generalizing first rest with
  | document m =>
      cases h
      rfl
  | pair left right ihl ihr =>
      obtain ⟨firstl, restl, hl⟩ := left.exists_documents_eq_cons
      obtain ⟨firstr, restr, hr⟩ := right.exists_documents_eq_cons
      rw [documents, hl, hr, List.cons_append] at h
      cases h
      rw [merged, ihl hl, ihr hr, mergeAll_append]

/-- A document that is among those merged adds nothing when it comes again. -/
theorem mergeAll_merge_of_mem {first d : Metadata} {rest : List Metadata} (hd : d.versions.Nodup)
    (hmem : d ∈ first :: rest) : (mergeAll first rest).merge d = mergeAll first rest := by
  have hself := (merge_self_eq_iff d).2 hd
  have habsorbed {a b : Metadata} (h : a.merge d = a) : (a.merge b).merge d = a.merge b := by
    calc (a.merge b).merge d
        = a.merge ((d.merge b).merge d) := by rw [← merge_assoc, ← merge_assoc, h]
      _ = a.merge b := by rw [merge_absorb, ← merge_assoc, h]
  induction rest using List.reverseRecOn with
  | nil => rw [mergeAll, List.foldl_nil, ← List.mem_singleton.1 hmem, hself]
  | append_singleton rest e ih =>
      rw [mergeAll_concat]
      rw [← List.cons_append, List.mem_append, List.mem_singleton] at hmem
      rcases hmem with hmem | rfl
      · exact habsorbed (ih hmem)
      · rw [merge_assoc, hself]

theorem mergeAll_eraseDups {first : Metadata} {rest : List Metadata}
    (hnodup : ∀ d ∈ first :: rest, d.versions.Nodup) {tail : List Metadata}
    (h : (first :: rest).eraseDups = first :: tail) :
    mergeAll first tail = mergeAll first rest := by
  induction rest using List.reverseRecOn generalizing tail with
  | nil =>
      cases h
      rfl
  | append_singleton rest d ih =>
      rw [← List.cons_append] at h hnodup
      have hfront : ∀ e ∈ first :: rest, e.versions.Nodup := fun e he =>
        hnodup e (List.mem_append_left _ he)
      rw [mergeAll_concat]
      by_cases hd : d ∈ first :: rest
      · rw [eraseDups_concat_of_mem hd] at h
        rw [mergeAll_merge_of_mem (hfront d hd) hd, ih hfront h]
      · rw [eraseDups_concat_of_notMem hd, List.eraseDups_cons, List.cons_append,
          List.cons.injEq] at h
        obtain ⟨-, rfl⟩ := h
        rw [mergeAll_concat, ih hfront List.eraseDups_cons]

/-- Merging is associative, a document that comes first does not count again, and documents without
repeated versions, and only these, stay the same when merged with themselves. So a list of documents
is merged to the same in any grouping, and if no versions are repeated within a document, also when
repetitions of documents are dropped. -/
theorem merge_leftRegular :
    (∀ a b c : Metadata, (a.merge b).merge c = a.merge (b.merge c)) ∧
    (∀ a b : Metadata, (a.merge b).merge a = a.merge b) ∧
    (∀ a : Metadata, a.merge a = a ↔ a.versions.Nodup) ∧
    (∀ (g : Grouping) (first : Metadata) (rest : List Metadata),
      g.documents = first :: rest → g.merged = mergeAll first rest) ∧
    ∀ (first : Metadata) (rest : List Metadata), (∀ d ∈ first :: rest, d.versions.Nodup) →
      ∀ g : Grouping, g.documents = (first :: rest).eraseDups → g.merged = mergeAll first rest := by
  refine ⟨merge_assoc, merge_absorb, merge_self_eq_iff, fun g _ _ => g.merged_eq, ?_⟩
  intro first rest hnodup g hg
  rw [List.eraseDups_cons] at hg
  rw [g.merged_eq hg, mergeAll_eraseDups hnodup List.eraseDups_cons]

/-- Two documents, and the first of them once more at the end. -/
theorem merged_without_repetition :
    let a : Metadata := { group := "g", artifact := "a", versions := ["2.0", "1.0"] }
    let b : Metadata := { group := "g", artifact := "a", versions := ["1.0", "3.0"] }
    (Grouping.pair (.document a) (.document b)).merged = mergeAll a [b, a] := by
  intro a b
  obtain ⟨-, -, -, -, hdropped⟩ := merge_leftRegular
  exact hdropped a [b, a] (by decide) _ (by decide)

end Depot.Metadata
