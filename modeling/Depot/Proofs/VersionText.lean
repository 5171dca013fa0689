import Depot.Version

/-!
How versions and their numbers are written. Numbers have digits '0' to '9' only and are read back;
timestamps have decimal digits of any script and one dot.
-/

namespace Depot

open Text

namespace Text

theorem digitValue?_of_isDigit {c : Char} (h : c.isDigit) :
    digitValue? c = some (c.toNat - '0'.toNat) := by
  rw [Char.isDigit, Bool.and_eq_true, decide_eq_true_eq, decide_eq_true_eq] at h
  exact if_pos h

theorem isDecimalDigit_of_isDigit {c : Char} (h : c.isDigit) : isDecimalDigit c :=
  isDecimalDigit_of_digitValue? (digitValue?_of_isDigit h)

namespace Natural

theorem isDigit_of_mem_write {n : Nat} {c : Char} (h : c ∈ (write n).toList) : c.isDigit := by
  rw [write, String.toList_ofList] at h
  exact Nat.isDigit_of_mem_toDigits (by decide) (by decide) h

theorem toList_write_ne_nil (n : Nat) : (write n).toList ≠ [] := by
  rw [write, String.toList_ofList]
  exact Nat.toDigits_ne_nil

theorem dash_notMem_write (n : Nat) : '-' ∉ (write n).toList := fun hmem =>
  absurd (isDigit_of_mem_write hmem) (by decide)

theorem continue?_of_isDigit {bound n : Nat} {digits : List Char} (h : ∀ c ∈ digits, c.isDigit)
    (hbound : Nat.ofDigitChars 10 digits n < bound) :
    continue? bound n digits = .ok (Nat.ofDigitChars 10 digits n) := by
  induction digits generalizing n with
  | nil => rfl
  | cons c digits ih =>
      rw [Nat.ofDigitChars_cons, Nat.mul_comm] at hbound ⊢
      rw [continue?, digitValue?_of_isDigit (h c List.mem_cons_self)]
      -- The value only grows with the digits that follow.
      have hle : n * 10 + (c.toNat - '0'.toNat) < bound := by
        refine Nat.lt_of_le_of_lt ?_ hbound
        rw [Nat.ofDigitChars_eq_ofDigitChars_zero]
        exact Nat.le_add_right_of_le (Nat.le_mul_of_pos_left _ (Nat.pow_pos (by decide)))
      dsimp only
      rw [if_pos hle, ih (fun d hd => h d (List.mem_cons_of_mem _ hd)) hbound]

theorem continue?_lt {bound n m : Nat} {s : List Char} (hn : n < bound)
    (h : continue? bound n s = .ok m) : m < bound := by
  induction s generalizing n with
  | nil =>
      cases h
      exact hn
  | cons c s ih =>
      rw [continue?] at h
      split at h
      · cases h
      · split at h
        · rename_i hlt
          exact ih hlt h
        · cases h

theorem read_write {bound n : Nat} (h : n < bound) : read bound (write n).toList = .ok n := by
  have hvalue : Nat.ofDigitChars 10 (write n).toList 0 = n := by
    rw [write, String.toList_ofList, Nat.ofDigitChars_ten_toDigits]
  have hdigits (c : Char) (hc : c ∈ (write n).toList) : c.isDigit := isDigit_of_mem_write hc
  have hcontinue : continue? bound 0 (write n).toList = .ok n := by
    rw [continue?_of_isDigit hdigits (by rwa [hvalue]), hvalue]
  unfold read
  split
  · rename_i hnil
    exact absurd hnil (toList_write_ne_nil n)
  · rename_i hplus
    exact absurd (hdigits '+' (by simp [hplus])) (by decide)
  · rename_i hplus
    exact absurd (hdigits '+' (by simp [hplus])) (by decide)
  · exact hcontinue

end Natural

end Text

namespace Version

theorem isTimestamp_iff {s : List Char} : isTimestamp s ↔ ∃ date time, s = date ++ '.' :: time ∧
    date.length = 8 ∧ (∀ c ∈ date, isDecimalDigit c) ∧ time.length = 6 ∧
    ∀ c ∈ time, isDecimalDigit c := by
  constructor
  · intro h
    unfold isTimestamp at h
    split at h
    · rename_i time hdrop
      simp only [Bool.and_eq_true, List.all_eq_true, beq_iff_eq] at h
      obtain ⟨⟨hdate, hlength⟩, htime⟩ := h
      have hlong := congrArg List.length hdrop
      rw [List.length_drop, List.length_cons] at hlong
      exact ⟨s.take 8, time, by rw [← hdrop, List.take_append_drop],
        by rw [List.length_take]; omega, hdate, hlength, htime⟩
    · cases h
  · rintro ⟨date, time, rfl, hlength, hdate, htime⟩
    unfold isTimestamp
    rw [List.drop_left' hlength, List.take_left' hlength]
    simpa [and_assoc] using ⟨hdate, htime⟩

theorem length_timestamp {s : List Char} (h : isTimestamp s) : s.length = 15 := by
  obtain ⟨date, time, rfl, hdate, -, htime, -⟩ := isTimestamp_iff.1 h
  rw [List.length_append, List.length_cons, hdate, htime]

theorem mem_timestamp {s : List Char} (h : isTimestamp s) {c : Char} (hc : c ∈ s) :
    isDecimalDigit c ∨ c = '.' := by
  obtain ⟨date, time, rfl, -, hdate, -, htime⟩ := isTimestamp_iff.1 h
  rcases List.mem_append.1 hc with hc | hc
  · exact .inl (hdate c hc)
  · rcases List.mem_cons.1 hc with hc | hc
    · exact .inr hc
    · exact .inl (htime c hc)

theorem dash_notMem_timestamp {s : List Char} (h : isTimestamp s) : '-' ∉ s := fun hmem =>
  absurd (mem_timestamp h hmem) (by decide)

theorem slash_notMem_timestamp {s : List Char} (h : isTimestamp s) : '/' ∉ s := fun hmem =>
  absurd (mem_timestamp h hmem) (by decide)

/-- Snapshots are told from builds by the first character after base and dash. -/
theorem head_timestamp {s : List Char} (h : isTimestamp s) :
    ∃ c rest, s = c :: rest ∧ isDecimalDigit c := by
  obtain ⟨date, time, rfl, hlength, hdate, -, -⟩ := isTimestamp_iff.1 h
  cases date with
  | nil => cases hlength
  | cons c date => exact ⟨c, date ++ '.' :: time, rfl, hdate c List.mem_cons_self⟩

theorem build_of_build? {s : List Char} {v : Version} (h : build? s = some v) :
    ∃ base timestamp number, isTimestamp timestamp.toList ∧ v = .build base timestamp number := by
  obtain ⟨⟨front, digits⟩, -, h⟩ := Option.bind_eq_some_iff.1 h
  obtain ⟨⟨base, timestamp⟩, -, h⟩ := Option.bind_eq_some_iff.1 h
  obtain ⟨_, hguard, h⟩ := Option.bind_eq_some_iff.1 h
  obtain ⟨number, -, h⟩ := Option.bind_eq_some_iff.1 h
  cases h
  refine ⟨_, _, number, ?_, rfl⟩
  rw [String.toList_ofList]
  change (if _ then pure () else failure) = some _ at hguard
  split at hguard
  · rename_i hparts
    simp only [Bool.and_eq_true] at hparts
    exact hparts.2
  · cases hguard

/-- What a text is read as: a snapshot if it has the tail, else a build or a release. -/
theorem ofString_cases (s : String) :
    (∃ base, s = base ++ snapshotTail ∧ ofString s = .snapshot base) ∨
      (∀ base, s ≠ base ++ snapshotTail) ∧ (ofString s = .release s ∨
        ∃ base timestamp number, isTimestamp timestamp.toList ∧
          ofString s = .build base timestamp number) := by
  unfold ofString
  split
  · rename_i base hbase
    refine .inl ⟨String.ofList base, ?_, rfl⟩
    rw [← String.toList_inj, String.toList_append, String.toList_ofList]
    exact beforeTail?_eq_some_iff.1 hbase
  · rename_i hnone
    refine .inr ⟨?_, ?_⟩
    · rintro base rfl
      rw [String.toList_append, beforeTail?_eq_some_iff.2 rfl] at hnone
      cases hnone
    · cases hbuild : build? s.toList with
      | none => exact .inl rfl
      | some v => exact .inr (build_of_build? hbuild)

/-- The directory of a version is made of its text and of a fixed ending. -/
theorem slash_notMem_directory {s : String} (h : '/' ∉ s.toList) :
    '/' ∉ (ofString s).directory.toList := by
  have htail : '/' ∉ snapshotTail.toList := by decide
  unfold ofString
  split
  · rename_i base hbase
    rw [directory, String.toList_append, String.toList_ofList, ← beforeTail?_eq_some_iff.1 hbase]
    exact h
  · cases hbuild : build? s.toList with
    | none => exact h
    | some v =>
        obtain ⟨front, digits, base, timestamp, number, hfront, hbase, rfl⟩ :=
          build?_eq_some hbuild
        rw [(splitLast_eq_some hfront).1, (splitLast_eq_some hbase).1] at h
        rw [Option.getD_some, directory, String.toList_append, String.toList_ofList,
          List.mem_append, not_or]
        exact ⟨fun hmem => h (by simp [hmem]), htail⟩

end Version

end Depot
