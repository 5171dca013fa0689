import Depot.Proofs.Locations

/-!
Paths read name by name without looking at the files, and when what is joined to a directory stays
below it. A path either never climbs above its beginning, and then it stays below every directory,
or it leads to the same place from all directories that are as deep, and then below one of them at
most.
-/

namespace Depot

open Text

namespace Files

/-- Where one more name leads. -/
def follow (place : Place) (name : Bytes) : Place :=
  if name.isEmpty || name == [0x2E] then place
  else if name == [0x2E, 0x2E] then place.dropLast
  else place ++ [name]

/-- Where a path leads if everything on the way is a directory. -/
def lexical (path : Path) : Place := (names path).foldl follow []

def Below (root path : Path) : Prop := lexical root <+: lexical path

instance (root path : Path) : Decidable (Below root path) :=
  inferInstanceAs (Decidable (lexical root <+: lexical path))

/-- Names that begin this deep below a directory never lead out of it. -/
def descends : Nat → List Bytes → Bool
  | _, [] => true
  | depth, name :: rest =>
      if name.isEmpty || name == [0x2E] then descends depth rest
      else if name == [0x2E, 0x2E] then decide (0 < depth) && descends (depth - 1) rest
      else descends (depth + 1) rest

/-- A path that neither begins at the top nor climbs above its beginning. -/
def IsContained (path : Path) : Prop := path.head? ≠ some slash ∧ descends 0 (names path)

/-- A name stays, goes up or goes down, wherever it is met. -/
theorem name_cases (name : Bytes) :
    ((∀ place, follow place name = place) ∧
      ∀ depth rest, descends depth (name :: rest) = descends depth rest) ∨
    ((∀ place, follow place name = place.dropLast) ∧ ∀ depth rest,
      descends depth (name :: rest) = (decide (0 < depth) && descends (depth - 1) rest)) ∨
    ((∀ place, follow place name = place ++ [name]) ∧
      ∀ depth rest, descends depth (name :: rest) = descends (depth + 1) rest) := by
  by_cases hstay : (name.isEmpty || name == [0x2E]) = true
  · exact .inl ⟨fun _ => if_pos hstay, fun _ _ => if_pos hstay⟩
  · by_cases hup : (name == [0x2E, 0x2E]) = true
    · exact .inr (.inl ⟨fun _ => (if_neg hstay).trans (if_pos hup),
        fun _ _ => (if_neg hstay).trans (if_pos hup)⟩)
    · exact .inr (.inr ⟨fun _ => (if_neg hstay).trans (if_neg hup),
        fun _ _ => (if_neg hstay).trans (if_neg hup)⟩)

theorem descends_up (depth : Nat) (rest : List Bytes) :
    descends depth ([0x2E, 0x2E] :: rest) = (decide (0 < depth) && descends (depth - 1) rest) := rfl

/-- No other name leads up. -/
theorem exists_descends_cons {name : Bytes} (h : name ≠ [0x2E, 0x2E]) (depth : Nat)
    (rest : List Bytes) : ∃ deeper, depth ≤ deeper ∧
      descends depth (name :: rest) = descends deeper rest := by
  rw [descends]
  split
  · exact ⟨depth, Nat.le_refl depth, rfl⟩
  · rw [if_neg (by simpa using h)]
    exact ⟨depth + 1, Nat.le_succ depth, rfl⟩

theorem names_ne_nil (path : Path) : names path ≠ [] := by
  cases path with
  | nil => simp [names]
  | cons b path =>
      rw [names]
      split
      · simp
      · split <;> simp

theorem names_append (front back : Path) :
    names (front ++ slash :: back) = names front ++ names back := by
  induction front with
  | nil => simp [names]
  | cons b front ih =>
      rw [List.cons_append, names, names, ih]
      split
      · rfl
      · cases h : names front with
        | nil => exact absurd h (names_ne_nil front)
        | cons name more => rfl

theorem names_eq_singleton {path : Path} (h : slash ∉ path) : names path = [path] := by
  induction path with
  | nil => rfl
  | cons b path ih =>
      rw [List.mem_cons, not_or] at h
      rw [names, if_neg (Ne.symm h.1), ih h.2]

theorem mem_of_mem_names {path : Path} {name : Bytes} {b : UInt8} (hname : name ∈ names path)
    (hb : b ∈ name) : b ∈ path := by
  induction path generalizing name with
  | nil => simp_all [names]
  | cons d path ih =>
      rw [names] at hname
      split at hname
      · rcases List.mem_cons.1 hname with rfl | hname
        · cases hb
        · exact List.mem_cons_of_mem _ (ih hname hb)
      · split at hname
        · rw [List.mem_singleton.1 hname, List.mem_singleton] at hb
          simp [hb]
        · rename_i first more hmore
          rcases List.mem_cons.1 hname with rfl | hname
          · rcases List.mem_cons.1 hb with rfl | hb
            · exact List.mem_cons_self
            · exact List.mem_cons_of_mem _ (ih (hmore ▸ List.mem_cons_self) hb)
          · exact List.mem_cons_of_mem _ (ih (hmore ▸ List.mem_cons_of_mem _ hname) hb)

theorem join_of_absolute {root path : Path} (h : path.head? = some slash) :
    join root path = path := by
  simp [join, h]

theorem lexical_join {root path : Path} (hroot : root ≠ []) (hpath : path.head? ≠ some slash) :
    lexical (join root path) = (names path).foldl follow (lexical root) := by
  have hempty : (path.head? == some slash || root.isEmpty) = false := by simp [hroot, hpath]
  unfold join
  rw [hempty, if_neg Bool.false_ne_true]
  split
  · rename_i hslash
    rw [beq_iff_eq] at hslash
    obtain ⟨front, rfl⟩ := List.getLast?_eq_some_iff.1 hslash
    -- The slash at the end only adds an empty name.
    have hroot : lexical (front ++ [slash]) = lexical front := by
      rw [lexical, names_append, List.foldl_append]
      rfl
    rw [hroot, List.append_assoc, List.singleton_append, lexical, names_append, List.foldl_append]
    rfl
  · rw [lexical, names_append, List.foldl_append]
    rfl

theorem prefix_foldl_follow {depth : Nat} {ns : List Bytes} (h : descends depth ns)
    (front back : Place) (hdepth : back.length = depth) :
    front <+: ns.foldl follow (front ++ back) := by
  induction ns generalizing depth back with
  | nil => exact List.prefix_append front back
  | cons name ns ih =>
      rw [List.foldl_cons]
      obtain ⟨hfollow, hnext⟩ | ⟨hfollow, hnext⟩ | ⟨hfollow, hnext⟩ := name_cases name
      · rw [hfollow]
        exact ih (hnext depth ns ▸ h) _ hdepth
      · rw [hnext, Bool.and_eq_true, decide_eq_true_eq] at h
        have hback : back ≠ [] := List.ne_nil_of_length_pos (hdepth ▸ h.1)
        rw [hfollow, List.dropLast_append_of_ne_nil hback]
        exact ih h.2 _ (by simp [hdepth])
      · rw [hfollow, List.append_assoc]
        exact ih (hnext depth ns ▸ h) _ (by simp [hdepth])

/-- Names that lead out of a directory at the top lead to the same place from any other one. -/
theorem foldl_follow_congr {depth : Nat} {ns : List Bytes} (h : descends depth ns = false)
    (a b : Bytes) (back : Place) (hdepth : back.length = depth) :
    ns.foldl follow (a :: back) = ns.foldl follow (b :: back) := by
  induction ns generalizing depth back with
  | nil => cases h
  | cons name ns ih =>
      rw [List.foldl_cons, List.foldl_cons]
      obtain ⟨hfollow, hnext⟩ | ⟨hfollow, hnext⟩ | ⟨hfollow, hnext⟩ := name_cases name
      · rw [hfollow, hfollow]
        exact ih (hnext depth ns ▸ h) _ hdepth
      · rw [hfollow, hfollow]
        rw [hnext] at h
        cases back with
        | nil => rfl
        | cons d back =>
            subst hdepth
            exact ih (by simpa using h) _ (by simp)
      · rw [hfollow, hfollow, List.cons_append, List.cons_append]
        exact ih (hnext depth ns ▸ h) _ (by simp [hdepth])

theorem below_join {root path : Path} (hroot : root ≠ []) (h : IsContained path) :
    Below root (join root path) := by
  rw [Below, lexical_join hroot h.1]
  simpa using prefix_foldl_follow h.2 (lexical root) [] rfl

/-- Two directories at the top are enough to tell. -/
theorem isContained_of_below {a b : Bytes} (hne : a ≠ b) {rootA rootB path : Path}
    (hrootA : rootA ≠ []) (hrootB : rootB ≠ []) (hlexA : lexical rootA = [a])
    (hlexB : lexical rootB = [b]) (hA : Below rootA (join rootA path))
    (hB : Below rootB (join rootB path)) : IsContained path := by
  have hapart (place : Place) (ha : [a] <+: place) (hb : [b] <+: place) : False := by
    obtain ⟨restA, rfl⟩ := ha
    obtain ⟨restB, hrest⟩ := hb
    simp only [List.singleton_append, List.cons.injEq] at hrest
    exact hne hrest.1.symm
  rw [Below, hlexA] at hA
  rw [Below, hlexB] at hB
  have hrelative : path.head? ≠ some slash := by
    intro habsolute
    rw [join_of_absolute habsolute] at hA hB
    exact hapart _ hA hB
  refine ⟨hrelative, ?_⟩
  by_contra hdescends
  rw [lexical_join hrootA hrelative, hlexA,
    foldl_follow_congr (by simpa using hdescends) a b [] rfl] at hA
  rw [lexical_join hrootB hrelative, hlexB] at hB
  exact hapart _ hA hB

end Files

end Depot
