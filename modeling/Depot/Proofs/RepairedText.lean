import Depot.Text.Utf8

/-!
Text that was written as UTF-8 needs no repair. The first byte of a character says how many follow
it, and each of these adds six bits to its code.
-/

namespace Depot.Text.Utf8

section Characters

variable {code lo hi : Nat} {seen : Bytes}

theorem start_two (h : 0x80 ≤ code) (h' : code ≤ 0x7FF) :
    start (code / 64 % 32 + 192) = some (.inr ⟨code / 64, 1, 0x80, 0xBF⟩) := by
  unfold start
  rw [if_neg (by omega), if_pos (by omega)]
  simp; omega

theorem start_three (h : 0x800 ≤ code) (h' : code ≤ 0xFFFF)
    (hvalid : code < 0xD800 ∨ 0xDFFF < code) : ∃ lo hi,
      start (code / 4096 % 16 + 224) = some (.inr ⟨code / 64 / 64, 2, lo, hi⟩) ∧
        lo ≤ code / 64 % 64 + 128 ∧ code / 64 % 64 + 128 ≤ hi := by
  unfold start
  rw [if_neg (by omega), if_neg (by omega)]
  split
  · exact ⟨0xA0, 0xBF, by simp; omega, by omega, by omega⟩
  · split
    · exact ⟨0x80, 0x9F, by simp; omega, by omega, by omega⟩
    · rw [if_pos (by omega)]
      exact ⟨0x80, 0xBF, by simp; omega, by omega, by omega⟩

theorem start_four (h : 0x10000 ≤ code) (h' : code < 0x110000) : ∃ lo hi,
    start (code / 262144 % 8 + 240) = some (.inr ⟨code / 4096 / 64, 3, lo, hi⟩) ∧
      lo ≤ code / 4096 % 64 + 128 ∧ code / 4096 % 64 + 128 ≤ hi := by
  unfold start
  rw [if_neg (by omega), if_neg (by omega), if_neg (by omega), if_neg (by omega), if_neg (by omega)]
  split
  · exact ⟨0x90, 0xBF, by simp; omega, by omega, by omega⟩
  · split
    · exact ⟨0x80, 0xBF, by simp; omega, by omega, by omega⟩
    · rw [if_pos (by omega)]
      exact ⟨0x80, 0x8F, by simp; omega, by omega, by omega⟩

theorem piecesFrom_open {n : Nat} {need : Need} (h : start n = some (.inr need)) (hn : n < 256)
    (rest : Bytes) :
    piecesFrom none (UInt8.ofNat n :: rest) = piecesFrom (some (need, [UInt8.ofNat n])) rest := by
  rw [piecesFrom, UInt8.toNat_ofNat_of_lt' hn, h]

theorem piecesFrom_more {missing left : Nat} (hmissing : missing = left + 1) (hleft : 0 < left)
    (h : lo ≤ code % 64 + 128) (h' : code % 64 + 128 ≤ hi) (rest : Bytes) :
    piecesFrom (some (⟨code / 64, missing, lo, hi⟩, seen)) (UInt8.ofNat (code % 64 + 128) :: rest) =
      piecesFrom (some (⟨code, left, 0x80, 0xBF⟩, seen ++ [UInt8.ofNat (code % 64 + 128)]))
        rest := by
  have hbyte : code % 64 + 128 < 256 := by omega
  have hbits : code / 64 * 64 + code % 64 = code := by omega
  have hadd : Need.add ⟨code / 64, missing, lo, hi⟩ (code % 64 + 128) =
      some (.inr ⟨code, left, 0x80, 0xBF⟩) := by
    simp [Need.add, h, h', hbits, hmissing, Nat.ne_of_gt hleft]
  rw [piecesFrom, UInt8.toNat_ofNat_of_lt' hbyte, hadd]

theorem piecesFrom_last (h : lo ≤ code % 64 + 128) (h' : code % 64 + 128 ≤ hi) (rest : Bytes) :
    piecesFrom (some (⟨code / 64, 1, lo, hi⟩, seen)) (UInt8.ofNat (code % 64 + 128) :: rest) =
      .inl (Char.ofNat code) :: piecesFrom none rest := by
  have hbyte : code % 64 + 128 < 256 := by omega
  have hbits : code / 64 * 64 + code % 64 = code := by omega
  have hadd : Need.add ⟨code / 64, 1, lo, hi⟩ (code % 64 + 128) =
      some (.inl (Char.ofNat code)) := by
    simp [Need.add, h, h', hbits]
  rw [piecesFrom, UInt8.toNat_ofNat_of_lt' hbyte, hadd]

theorem piecesFrom_utf8EncodeChar (c : Char) (rest : Bytes) :
    piecesFrom none (String.utf8EncodeChar c ++ rest) = .inl c :: piecesFrom none rest := by
  have hvalid : c.val.toNat < 0xD800 ∨ 0xDFFF < c.val.toNat ∧ c.val.toNat < 0x110000 := c.valid
  have hc : Char.ofNat c.val.toNat = c := Char.ofNat_toNat c
  unfold String.utf8EncodeChar
  generalize c.val.toNat = code at hvalid hc
  rw [← hc]
  dsimp only
  -- One case for each number of bytes that a character can have.
  split
  · have hbyte : code < 256 := by omega
    have hstart : start code = some (.inl (Char.ofNat code)) := if_pos (by omega)
    rw [List.singleton_append, piecesFrom, UInt8.toNat_ofNat_of_lt' hbyte, hstart]
  · split
    · simp only [List.cons_append, List.nil_append]
      rw [piecesFrom_open (start_two (by omega) (by omega)) (by omega),
        piecesFrom_last (by omega) (by omega)]
    · split
      · have hcode : 0x800 ≤ code := by omega
        obtain ⟨lo, hi, hstart, hlo, hhi⟩ := start_three hcode (by omega) (by omega)
        simp only [List.cons_append, List.nil_append]
        rw [piecesFrom_open hstart (by omega), piecesFrom_more rfl Nat.one_pos hlo hhi,
          piecesFrom_last (by omega) (by omega)]
      · have hcode : 0x10000 ≤ code := by omega
        obtain ⟨lo, hi, hstart, hlo, hhi⟩ := start_four hcode (by omega)
        have hbits : code / 4096 = code / 64 / 64 := by omega
        simp only [List.cons_append, List.nil_append]
        rw [piecesFrom_open hstart (by omega), piecesFrom_more rfl Nat.two_pos hlo hhi, hbits,
          piecesFrom_more rfl Nat.one_pos (by omega) (by omega),
          piecesFrom_last (by omega) (by omega)]

end Characters

/-- Nothing of what was written as UTF-8 needs to be repaired. -/
theorem repair_encode (s : String) : repair (encode s) = s := by
  have hpieces (text : List Char) :
      piecesFrom none (text.flatMap String.utf8EncodeChar) = text.map .inl := by
    induction text with
    | nil => rfl
    | cons c text ih => rw [List.flatMap_cons, piecesFrom_utf8EncodeChar, ih, List.map_cons]
  rw [repair, encode, hpieces, List.map_map]
  simp [Function.comp_def]

end Depot.Text.Utf8
