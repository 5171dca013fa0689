import Depot.Proofs.VersionGrammar

/-!
Whether versions are written as they were read. The number of a build is kept as a number, so zeros
in front of it get lost; every other text comes back as it was.
-/

namespace Depot

open Text

namespace Text.Natural

theorem toDigits_of_isDigit {c : Char} (h : c.isDigit) :
    c.toNat - '0'.toNat < 10 ∧ Nat.toDigits 10 (c.toNat - '0'.toNat) = [c] := by
  have hletter : ∀ d < 10, Nat.digitChar d = Char.ofNat (d + '0'.toNat) := by decide
  rw [Char.isDigit, Bool.and_eq_true, decide_eq_true_eq, decide_eq_true_eq] at h
  have hlower : '0'.toNat ≤ c.toNat := h.1
  have hupper : c.toNat ≤ '9'.toNat := h.2
  have hlt : c.toNat - '0'.toNat < 10 := by simp at hlower hupper ⊢; omega
  refine ⟨hlt, ?_⟩
  rw [Nat.toDigits_of_lt_base hlt, hletter _ hlt, Nat.sub_add_cancel hlower, Char.ofNat_toNat]

/-- Further digits are written behind those of a number that is not zero. -/
theorem toDigits_append_digits {digits : List Char} {n : Nat} (hdigits : ∀ c ∈ digits, c.isDigit)
    (hn : 0 < n) :
    Nat.toDigits 10 n ++ digits = Nat.toDigits 10 (Nat.ofDigitChars 10 digits n) := by
  induction digits generalizing n with
  | nil => simp
  | cons c digits ih =>
      obtain ⟨hlt, hc⟩ := toDigits_of_isDigit (hdigits c List.mem_cons_self)
      have hstep := Nat.toDigits_append_toDigits (b := 10) (by decide) hn hlt
      rw [hc] at hstep
      have hrest : ∀ d ∈ digits, d.isDigit := fun d hd => hdigits d (List.mem_cons_of_mem _ hd)
      rw [Nat.ofDigitChars_cons, ← ih hrest (by omega), ← hstep, List.append_assoc,
        List.singleton_append]

theorem exists_zeros {digits : List Char} (hdigits : ∀ c ∈ digits, c.isDigit) (hne : digits ≠ []) :
    ∃ zeros, digits =
      List.replicate zeros '0' ++ Nat.toDigits 10 (Nat.ofDigitChars 10 digits 0) := by
  induction digits with
  | nil => exact absurd rfl hne
  | cons c rest ih =>
      obtain ⟨-, hc⟩ := toDigits_of_isDigit (hdigits c List.mem_cons_self)
      have hrest : ∀ d ∈ rest, d.isDigit := fun d hd => hdigits d (List.mem_cons_of_mem _ hd)
      rw [Nat.ofDigitChars_cons, Nat.mul_zero, Nat.zero_add]
      by_cases hzero : c.toNat - '0'.toNat = 0
      · rw [hzero] at hc ⊢
        by_cases hnil : rest = []
        · exact ⟨0, by rw [hnil, ← hc]; rfl⟩
        · obtain ⟨zeros, hzeros⟩ := ih hrest hnil
          refine ⟨zeros + 1, ?_⟩
          rw [List.replicate_succ, List.cons_append, ← hzeros, ← List.singleton_append, ← hc]
          rfl
      · refine ⟨0, ?_⟩
        rw [← toDigits_append_digits hrest (Nat.pos_of_ne_zero hzero), hc]
        rfl

end Text.Natural

namespace Version

/-- The first text is a build with zeros in front of its number, the second one is without them. -/
def IsPadded (s plain : String) : Prop :=
  ∃ base timestamp digits zeros number, IsBuild s base timestamp digits ∧
    digits.toList = List.replicate zeros '0' ++ (Natural.write number).toList ∧
    0 < zeros ∧ number < UInt32.size ∧ plain = base ++ "-" ++ timestamp ++ "-" ++ Natural.write number

variable {s plain : String}

theorem IsPadded.ne (h : IsPadded s plain) : plain ≠ s := by
  obtain ⟨base, timestamp, digits, zeros, number, hs, hdigits, hzeros, -, rfl⟩ := h
  intro heq
  have hsame : Natural.write number = digits := by simpa [hs.split] using heq
  have hlength := congrArg List.length hdigits
  simp [hsame] at hlength
  omega

theorem IsPadded.text_eq (h : IsPadded s plain) : (ofString s).text = plain := by
  obtain ⟨base, timestamp, digits, zeros, number, hs, hdigits, -, hlt, rfl⟩ := h
  have hvalue : numberOf digits = (UInt32.ofNat number).toNat := by
    rw [UInt32.toNat_ofNat_of_lt' hlt, numberOf, hdigits, Nat.ofDigitChars_append,
      Nat.ofDigitChars_replicate_zero]
    exact numberOf_write number
  rw [ofString_eq_build_iff.2 ⟨digits, hs, hvalue⟩, text, UInt32.toNat_ofNat_of_lt' hlt]

theorem text_eq_or_isPadded (s : String) : (ofString s).text = s ∨ ∃ plain, IsPadded s plain := by
  rcases ofString_cases s with ⟨base, hbase, h⟩ | ⟨-, h | ⟨base, timestamp, number, -, h⟩⟩
  · rw [h, hbase]
    exact .inl rfl
  · rw [h]
    exact .inl rfl
  · obtain ⟨digits, hs, hvalue⟩ := ofString_eq_build_iff.1 h
    obtain ⟨zeros, hzeros⟩ := Natural.exists_zeros hs.digits (by simpa using hs.digits_ne)
    have hdigits : digits.toList =
        List.replicate zeros '0' ++ (Natural.write number.toNat).toList := by
      rw [Natural.write, String.toList_ofList, ← hvalue]
      exact hzeros
    rcases Nat.eq_zero_or_pos zeros with rfl | hpos
    · have hsame : digits = Natural.write number.toNat := by
        simpa [← String.toList_inj] using hdigits
      rw [h, hs.split, hsame]
      exact .inl rfl
    · exact .inr ⟨_, base, timestamp, digits, zeros, number.toNat, hs, hdigits, hpos,
        number.toNat_lt, rfl⟩

/-- A version is written as it was read, unless it is a build whose number has superfluous zeros;
such a build is written without them. -/
theorem text_ofString_eq_iff (s : String) :
    ((ofString s).text = s ↔ ¬∃ plain, IsPadded s plain) ∧
    ∀ plain, IsPadded s plain → (ofString s).text = plain := by
  refine ⟨⟨?_, ?_⟩, fun _ => IsPadded.text_eq⟩
  · rintro hsame ⟨plain, hpadded⟩
    exact hpadded.ne (hpadded.text_eq.symm.trans hsame)
  · exact (text_eq_or_isPadded s).resolve_right

/-- The zero in front of the two is not written again. -/
theorem not_forall_text_ofString : ¬∀ s : String, (ofString s).text = s := by
  intro hall
  have htext : (ofString "1.0-20210127.131051-02").text = "1.0-20210127.131051-2" := by
    decide +kernel
  exact absurd ((hall "1.0-20210127.131051-02").symm.trans htext) (by decide)

end Version

end Depot
