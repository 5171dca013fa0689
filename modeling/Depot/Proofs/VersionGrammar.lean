import Depot.Proofs.VersionText
import Mathlib.Data.Option.Basic

/-!
What a text is read as. A build is a base, a timestamp and the digits of a number; neither of the
last two has dashes, so a text is one in at most one way, whatever its base looks like. Reading the
text or the directory of a version again leads to the same version, or to its floating snapshot.
-/

namespace Depot

open Text

theorem Text.digitValue?_eq_some {c : Char} {d : Nat} (h : digitValue? c = some d) :
    c.isDigit ∧ d = c.toNat - '0'.toNat := by
  have hdigit : c.isDigit := by
    unfold digitValue? at h
    split at h
    · rename_i hc
      exact (Bool.and_eq_true _ _).mpr ⟨decide_eq_true hc.1, decide_eq_true hc.2⟩
    · cases h
  rw [digitValue?_of_isDigit hdigit] at h
  exact ⟨hdigit, (Option.some.inj h).symm⟩

namespace Text.Natural

theorem eq_of_continue? {bound n m : Nat} {digits : List Char}
    (h : continue? bound n digits = .ok m) :
    (∀ c ∈ digits, c.isDigit) ∧ Nat.ofDigitChars 10 digits n = m := by
  induction digits generalizing n with
  | nil =>
      cases h
      simp
  | cons c digits ih =>
      rw [continue?] at h
      cases hc : digitValue? c with
      | none => simp [hc] at h
      | some d =>
          obtain ⟨hdigit, rfl⟩ := digitValue?_eq_some hc
          simp only [hc] at h
          split at h
          · obtain ⟨hdigits, hvalue⟩ := ih h
            rw [Nat.ofDigitChars_cons, Nat.mul_comm]
            exact ⟨List.forall_mem_cons.2 ⟨hdigit, hdigits⟩, hvalue⟩
          · cases h

/-- Where a text begins with a digit, a sign is no question. -/
theorem read_eq_continue? {bound : Nat} {digits : List Char} (hne : digits ≠ [])
    (hplus : digits.head? ≠ some '+') : read bound digits = continue? bound 0 digits := by
  unfold read
  split <;> simp_all

end Text.Natural

namespace Version

/-- How a build is written. The base has no line break, the timestamp may have the digits of any
script, the number has those of ASCII and any length. -/
structure IsBuild (s base timestamp digits : String) : Prop where
  split : s = base ++ "-" ++ timestamp ++ "-" ++ digits
  base_ne : base ≠ ""
  base : '\n' ∉ base.toList
  timestamp : ∃ date time, timestamp.toList = date ++ '.' :: time ∧ date.length = 8 ∧
    (∀ c ∈ date, isDecimalDigit c) ∧ time.length = 6 ∧ ∀ c ∈ time, isDecimalDigit c
  digits_ne : digits ≠ ""
  digits : ∀ c ∈ digits.toList, c.isDigit

/-- The number that the digits stand for. -/
def numberOf (digits : String) : Nat := Nat.ofDigitChars 10 digits.toList 0

variable {s base timestamp digits base' timestamp' digits' : String}

theorem IsBuild.toList (h : IsBuild s base timestamp digits) :
    s.toList = (base.toList ++ '-' :: timestamp.toList) ++ '-' :: digits.toList := by
  rw [h.split]
  simp

theorem IsBuild.dash_notMem_digits (h : IsBuild s base timestamp digits) :
    '-' ∉ digits.toList := fun hmem =>
  absurd (h.digits '-' hmem) (by decide)

/-- The last two dashes are those around the timestamp. -/
theorem IsBuild.splitLast_eq (h : IsBuild s base timestamp digits) :
    splitLast '-' s.toList = some (base.toList ++ '-' :: timestamp.toList, digits.toList) ∧
      splitLast '-' (base.toList ++ '-' :: timestamp.toList) =
        some (base.toList, timestamp.toList) := by
  constructor
  · rw [h.toList]
    exact splitLast_append h.dash_notMem_digits
  · exact splitLast_append (dash_notMem_timestamp (isTimestamp_iff.2 h.timestamp))

theorem IsBuild.unique (h : IsBuild s base timestamp digits)
    (h' : IsBuild s base' timestamp' digits') :
    base = base' ∧ timestamp = timestamp' ∧ digits = digits' := by
  obtain ⟨hfront, hbase⟩ := h.splitLast_eq
  obtain ⟨hfront', hbase'⟩ := h'.splitLast_eq
  rw [hfront, Option.some.injEq, Prod.mk.injEq] at hfront'
  rw [← hfront'.1, hbase, Option.some.injEq, Prod.mk.injEq] at hbase'
  exact ⟨String.toList_inj.1 hbase'.1, String.toList_inj.1 hbase'.2, String.toList_inj.1 hfront'.2⟩

theorem buildNumber?_eq_some_iff {digits : List Char} {number : UInt32} :
    buildNumber? digits = some number ↔
      digits ≠ [] ∧ (∀ c ∈ digits, c.isDigit) ∧ Nat.ofDigitChars 10 digits 0 = number.toNat := by
  constructor
  · intro h
    unfold buildNumber? at h
    split at h
    · rename_i hall
      split at h
      · rename_i n hn
        have hne : digits ≠ [] := by
          rintro rfl
          cases hn
        have hplus : digits.head? ≠ some '+' := fun hhead =>
          absurd (List.all_eq_true.1 hall '+' (List.mem_of_head? hhead)) (by decide)
        rw [Natural.read_eq_continue? hne hplus] at hn
        have hlt := Natural.continue?_lt (by decide) hn
        obtain ⟨hdigits, rfl⟩ := Natural.eq_of_continue? hn
        cases h
        exact ⟨hne, hdigits, (UInt32.toNat_ofNat_of_lt hlt).symm⟩
      · cases h
    · cases h
  · rintro ⟨hne, hdigits, hvalue⟩
    have hall : digits.all isDecimalDigit = true :=
      List.all_eq_true.2 fun c hc => isDecimalDigit_of_isDigit (hdigits c hc)
    have hplus : digits.head? ≠ some '+' := fun hhead =>
      absurd (hdigits '+' (List.mem_of_head? hhead)) (by decide)
    have hread : Natural.read UInt32.size digits = .ok number.toNat := by
      rw [Natural.read_eq_continue? hne hplus, ← hvalue]
      exact Natural.continue?_of_isDigit hdigits (hvalue ▸ number.toNat_lt)
    simp [buildNumber?, hall, hread]

theorem build?_eq_some_iff {v : Version} : build? s.toList = some v ↔
    ∃ base timestamp digits number, IsBuild s base timestamp digits ∧
      numberOf digits = number.toNat ∧ v = .build base timestamp number := by
  constructor
  · intro h
    obtain ⟨⟨front, digits⟩, hfront, h⟩ := Option.bind_eq_some_iff.1 h
    obtain ⟨⟨base, timestamp⟩, hbase, h⟩ := Option.bind_eq_some_iff.1 h
    obtain ⟨_, hguard, h⟩ := Option.bind_eq_some_iff.1 h
    obtain ⟨number, hnumber, h⟩ := Option.bind_eq_some_iff.1 h
    cases h
    have hparts : base ≠ [] ∧ '\n' ∉ base ∧ isTimestamp timestamp := by
      simpa [and_assoc] using (Option.guard_eq_some' _).1 hguard
    obtain ⟨hne, hdigits, hvalue⟩ := buildNumber?_eq_some_iff.1 hnumber
    refine ⟨String.ofList base, String.ofList timestamp, String.ofList digits, number, ?_, ?_, rfl⟩
    · refine ⟨?_, ?_, ?_, ?_, ?_, ?_⟩
      · rw [← String.toList_inj, (splitLast_eq_some hfront).1, (splitLast_eq_some hbase).1]
        simp
      · simpa using hparts.1
      · simpa using hparts.2.1
      · simpa using isTimestamp_iff.1 hparts.2.2
      · simpa using hne
      · simpa using hdigits
    · simpa [numberOf] using hvalue
  · rintro ⟨base, timestamp, digits, number, h, hvalue, rfl⟩
    obtain ⟨hfront, hbase⟩ := h.splitLast_eq
    have htimestamp : isTimestamp timestamp.toList := isTimestamp_iff.2 h.timestamp
    have hnumber : buildNumber? digits.toList = some number :=
      buildNumber?_eq_some_iff.2 ⟨by simpa using h.digits_ne, h.digits, hvalue⟩
    have hparts : (!base.toList.isEmpty && !base.toList.contains '\n' &&
        isTimestamp timestamp.toList) = true := by
      simp [htimestamp, h.base_ne, h.base]
    have hguard := (Option.guard_eq_some' ()).2 hparts
    simp only [build?, hfront, hbase, hnumber, hguard, Option.bind_eq_bind, Option.bind_some,
      String.ofList_toList]
    rfl

theorem ofString_append_snapshotTail (base : String) :
    ofString (base ++ snapshotTail) = .snapshot base := by
  rcases ofString_cases (base ++ snapshotTail) with ⟨base', hbase, h⟩ | ⟨hne, -⟩
  · rw [h, (String.append_left_inj _).1 hbase]
  · exact absurd rfl (hne base)

/-- What follows the last dash of a build is a number, so it is not the tail of a snapshot. -/
theorem IsBuild.ne_append_snapshotTail (h : IsBuild s base timestamp digits) (front : String) :
    s ≠ front ++ snapshotTail := by
  rintro rfl
  have hlast : splitLast '-' (front ++ snapshotTail).toList =
      some (front.toList, "SNAPSHOT".toList) := by
    rw [String.toList_append]
    exact splitLast_append (by decide)
  rw [h.splitLast_eq.1, Option.some.injEq, Prod.mk.injEq] at hlast
  have hmem : 'S' ∈ digits.toList := by
    rw [hlast.2]
    decide
  exact absurd (h.digits 'S' hmem) (by decide)

theorem ofString_eq_build_iff {number : UInt32} : ofString s = .build base timestamp number ↔
    ∃ digits, IsBuild s base timestamp digits ∧ numberOf digits = number.toNat := by
  constructor
  · intro h
    unfold ofString at h
    split at h
    · cases h
    · cases hbuild : build? s.toList with
      | none => simp [hbuild] at h
      | some v =>
          obtain ⟨_, _, digits, _, hs, hvalue, rfl⟩ := build?_eq_some_iff.1 hbuild
          simp only [hbuild, Option.getD_some] at h
          cases h
          exact ⟨digits, hs, hvalue⟩
  · rintro ⟨digits, h, hvalue⟩
    unfold ofString
    split
    · rename_i front hfront
      refine absurd ?_ (h.ne_append_snapshotTail (String.ofList front))
      rw [← String.toList_inj]
      simpa using beforeTail?_eq_some_iff.1 hfront
    · rw [build?_eq_some_iff.2 ⟨base, timestamp, digits, number, h, hvalue, rfl⟩, Option.getD_some]

theorem numberOf_write (n : Nat) : numberOf (Natural.write n) = n := by
  rw [numberOf, Natural.write, String.toList_ofList, Nat.ofDigitChars_ten_toDigits]

/-- A build is written with the shortest digits of its number. -/
theorem IsBuild.text (h : IsBuild s base timestamp digits) (number : UInt32) :
    IsBuild (build base timestamp number).text base timestamp (Natural.write number.toNat) where
  split := rfl
  base_ne := h.base_ne
  base := h.base
  timestamp := h.timestamp
  digits_ne := by simpa using Natural.toList_write_ne_nil number.toNat
  digits _ hc := Natural.isDigit_of_mem_write hc

theorem ofString_text (s : String) : ofString (ofString s).text = ofString s := by
  rcases ofString_cases s with ⟨base, -, h⟩ | ⟨-, h | ⟨base, timestamp, number, -, h⟩⟩
  · rw [h]
    exact ofString_append_snapshotTail base
  · rw [h]
    exact h
  · obtain ⟨digits, hs, -⟩ := ofString_eq_build_iff.1 h
    rw [h]
    exact ofString_eq_build_iff.2 ⟨_, hs.text number, numberOf_write number.toNat⟩

/-- Directories of releases are read as releases, all others as floating snapshots. -/
theorem ofString_directory (s : String) : ofString (ofString s).directory =
    if (ofString s).isSnapshot then .snapshot (ofString s).base else .release s := by
  rcases ofString_cases s with ⟨base, -, h⟩ | ⟨-, h | ⟨base, timestamp, number, -, h⟩⟩
  · rw [h]
    exact ofString_append_snapshotTail base
  · rw [h]
    exact h
  · rw [h]
    exact ofString_append_snapshotTail base

theorem isSnapshot_eq_false_iff {v : Version} : v.isSnapshot = false ↔ ∃ t, v = .release t := by
  cases v <;> simp [isSnapshot]

theorem isSnapshot_ofString_directory (s : String) :
    (ofString (ofString s).directory).isSnapshot = (ofString s).isSnapshot := by
  rw [ofString_directory]
  cases (ofString s).isSnapshot <;> rfl

theorem isSnapshot_ofString_iff (s : String) :
    (ofString s).isSnapshot ↔ ∃ base, (ofString s).directory = base ++ snapshotTail := by
  rcases ofString_cases s with ⟨base, -, h⟩ | ⟨hne, h | ⟨base, timestamp, number, -, h⟩⟩
  · rw [h]
    exact iff_of_true rfl ⟨base, rfl⟩
  · rw [h]
    refine iff_of_false Bool.false_ne_true ?_
    rintro ⟨base, hbase⟩
    exact hne base hbase
  · rw [h]
    exact iff_of_true rfl ⟨base, rfl⟩

/-- A text is read as a build exactly if it is made of the parts of one, which it can be in one way
only. What was read is told again by its text and, up to the build, by its directory, whose name has
the tail of a floating snapshot unless it is a release. -/
theorem ofString_isClassified (s : String) :
    (∀ base timestamp number, ofString s = .build base timestamp number ↔
      ∃ digits, IsBuild s base timestamp digits ∧ numberOf digits = number.toNat) ∧
    (∀ base timestamp digits base' timestamp' digits', IsBuild s base timestamp digits →
      IsBuild s base' timestamp' digits' →
        base = base' ∧ timestamp = timestamp' ∧ digits = digits') ∧
    ofString (ofString s).text = ofString s ∧
    ((∃ t, ofString (ofString s).directory = .release t) ↔ ∃ t, ofString s = .release t) ∧
    ((¬∃ t, ofString s = .release t) →
      ofString (ofString s).directory = .snapshot (ofString s).base) ∧
    ((ofString s).isSnapshot ↔ ∃ base, (ofString s).directory = base ++ "-SNAPSHOT") := by
  refine ⟨fun _ _ _ => ofString_eq_build_iff, fun _ _ _ _ _ _ => IsBuild.unique, ofString_text s,
    ?_, fun h => ?_, isSnapshot_ofString_iff s⟩
  · rw [← isSnapshot_eq_false_iff, ← isSnapshot_eq_false_iff, isSnapshot_ofString_directory]
  · rw [← isSnapshot_eq_false_iff, Bool.not_eq_false] at h
    rw [ofString_directory, if_pos h]

end Version

end Depot
