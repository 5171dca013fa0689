import Depot.Proofs.Addresses
import Depot.Proofs.HostNames

/-!
The characters of numeric addresses. Whether an address is written or read, it consists of digits
with dots or colons between them, so there is no bracket within the brackets of a host.
-/

namespace Depot.Url

open Text Domain

theorem isNameChar_of_mem_toDigits {base n : Nat} {c : Char} (hone : 1 < base) (hbase : base ≤ 16)
    (hc : c ∈ Nat.toDigits base n) : IsNameChar c := by
  have hdigit : ∀ d < 16, IsNameChar (Nat.digitChar d) := by decide
  induction n using Nat.strongRecOn with
  | ind n ih =>
      rw [Nat.toDigits_eq_if hone] at hc
      split at hc
      · rename_i hlt
        rw [List.mem_singleton.1 hc]
        exact hdigit n (by omega)
      · rename_i hle
        rcases List.mem_append.1 hc with hc | hc
        · exact ih (n / base) (Nat.div_lt_self (by omega) hone) hc
        · rw [List.mem_singleton.1 hc]
          exact hdigit _ ((Nat.mod_lt n (by omega)).trans_le hbase)

theorem isNameChar_of_hexValue? {c : Char} {d : Nat} (h : hexValue? c = some d) : IsNameChar c := by
  have hall : ∀ n < 0x80, (hexValue? (Char.ofNat n)).isSome → IsNameChar (Char.ofNat n) := by decide
  exact Utf8.forall_ascii (P := fun c => (hexValue? c).isSome → IsNameChar c) hall
    (hexValue?_eq_some h).1 (Option.isSome_of_eq_some h)

theorem Ipv4.isNameChar_of_mem_text {a : Ipv4} {c : Char} (hc : c ∈ a.text.toList) :
    IsNameChar c := by
  rw [Ipv4.text, String.toList_intercalate, List.map_map] at hc
  rcases mem_intercalate hc with rfl | ⟨part, hpart, hc⟩
  · decide
  · obtain ⟨k, -, rfl⟩ := List.mem_map.1 hpart
    rw [Function.comp_apply, Natural.write, String.toList_ofList] at hc
    exact isNameChar_of_mem_toDigits (by decide) (by decide) hc

namespace Ipv6

variable {a : Ipv6} {s : List Char} {c : Char}

/-- A character of an address between square brackets. -/
def IsChar (c : Char) : Prop := IsNameChar c ∨ c = ':'

instance (c : Char) : Decidable (IsChar c) := inferInstanceAs (Decidable (_ ∨ _))

theorem isChar_of_mem_text (hc : c ∈ a.text.toList) : IsChar c := by
  have hjoin {pieces : List Nat} (hc : c ∈ (":".intercalate (pieces.map pieceText)).toList) :
      IsChar c := by
    rw [String.toList_intercalate, List.map_map] at hc
    rcases mem_intercalate hc with rfl | ⟨part, hpart, hc⟩
    · decide
    · obtain ⟨n, -, rfl⟩ := List.mem_map.1 hpart
      rw [Function.comp_apply, pieceText, String.toList_ofList] at hc
      exact .inl (isNameChar_of_mem_toDigits (by decide) (by decide) hc)
  unfold text at hc
  dsimp only at hc
  split at hc
  · exact hjoin hc
  · simp only [String.toList_append, List.mem_append] at hc
    rcases hc with (hc | hc) | hc
    · exact hjoin hc
    · obtain rfl : c = ':' := by simpa using hc
      decide
    · exact hjoin hc

theorem isNameChar_of_foldlM {n m : Nat}
    (h : s.foldlM (fun n c => (hexValue? c).map fun d => n * 16 + d) n = some m) (hc : c ∈ s) :
    IsNameChar c := by
  induction s generalizing n with
  | nil => cases hc
  | cons b s ih =>
      rw [List.foldlM_cons] at h
      obtain ⟨k, hk, hrest⟩ := Option.bind_eq_some_iff.1 h
      rcases List.mem_cons.1 hc with rfl | hc
      · obtain ⟨d, hd, -⟩ := Option.map_eq_some_iff.1 hk
        exact isNameChar_of_hexValue? hd
      · exact ih hrest hc

theorem isNameChar_of_piece? {n : Nat} (h : piece? s = some n) (hc : c ∈ s) : IsNameChar c := by
  unfold piece? at h
  split at h
  · cases h
  · exact isNameChar_of_foldlM h hc

theorem isNameChar_of_continue? {bound n m : Nat} (h : Natural.continue? bound n s = .ok m)
    (hc : c ∈ s) : IsNameChar c := by
  induction s generalizing n with
  | nil => cases hc
  | cons b s ih =>
      rw [Natural.continue?] at h
      split at h
      · cases h
      · rename_i d hd
        split at h
        · rcases List.mem_cons.1 hc with rfl | hc
          · unfold digitValue? at hd
            split at hd
            · rename_i hdigit
              exact isNameChar_of_hexValue? (if_pos hdigit)
            · cases hd
          · exact ih h hc
        · cases h

theorem isNameChar_of_octet? {n : Nat} (h : octet? s = some n) (hc : c ∈ s) : IsNameChar c := by
  simp only [octet?, Option.bind_eq_bind, Option.bind_eq_some_iff] at h
  obtain ⟨-, -, k, hk, -⟩ := h
  cases hread : Natural.read 256 s with
  | error e => rw [hread] at hk; cases hk
  | ok m =>
      unfold Natural.read at hread
      split at hread
      · cases hread
      · cases hread
      · rcases List.mem_cons.1 hc with rfl | hc
        · decide
        · exact isNameChar_of_continue? hread hc
      · exact isNameChar_of_continue? hread hc

theorem isNameChar_of_dotted? {pieces : List Nat} (h : dotted? s = some pieces) (hc : c ∈ s) :
    IsNameChar c := by
  simp only [dotted?, Option.bind_eq_bind, Option.bind_eq_some_iff] at h
  obtain ⟨octets, hoctets, -⟩ := h
  rcases exists_mem_splitAll '.' hc with rfl | ⟨part, hpart, hc⟩
  · decide
  · obtain ⟨n, hn⟩ := exists_of_mapM hoctets hpart
    exact isNameChar_of_octet? hn hc

theorem isNameChar_of_pieces? {parts : List (List Char)} {pieces : List Nat}
    (h : pieces? parts = some pieces) {part : List Char} (hpart : part ∈ parts) (hc : c ∈ part) :
    IsNameChar c := by
  fun_induction pieces? parts generalizing pieces with
  | case1 => cases hpart
  | case2 last hdotted =>
      rw [List.mem_singleton.1 hpart] at hc
      exact isNameChar_of_dotted? h hc
  | case3 last hdotted =>
      rw [List.mem_singleton.1 hpart] at hc
      obtain ⟨n, hn, -⟩ := Option.map_eq_some_iff.1 h
      exact isNameChar_of_piece? hn hc
  | case4 first parts hne ih =>
      simp only [Option.bind_eq_bind, Option.bind_eq_some_iff] at h
      obtain ⟨n, hn, more, hmore, -⟩ := h
      rcases List.mem_cons.1 hpart with rfl | hpart
      · exact isNameChar_of_piece? hn hc
      · exact ih hmore hpart

theorem isChar_of_pieces? {pieces : List Nat} (h : pieces? (splitAll ':' s) = some pieces)
    (hc : c ∈ s) : IsChar c := by
  rcases exists_mem_splitAll ':' hc with rfl | ⟨part, hpart, hc⟩
  · exact .inr rfl
  · exact .inl (isNameChar_of_pieces? h hpart hc)

theorem isChar_of_side? {pieces : List Nat} (h : side? s = some pieces) (hc : c ∈ s) :
    IsChar c := by
  unfold side? at h
  split at h
  · rename_i hempty
    rw [List.isEmpty_iff.1 hempty] at hc
    cases hc
  · exact isChar_of_pieces? h hc

theorem splitGap_eq_some {before after : List Char} (h : splitGap s = some (before, after)) :
    s = before ++ ':' :: ':' :: after := by
  fun_induction splitGap s generalizing before with
  | case1 rest =>
      cases h
      rfl
  | case2 c rest hgap ih =>
      obtain ⟨⟨front, back⟩, hfront, h⟩ := Option.map_eq_some_iff.1 h
      cases h
      rw [ih hfront]
      rfl
  | case3 => cases h

theorem isChar_of_parse? (h : parse? s = some a) (hc : c ∈ s) : IsChar c := by
  unfold parse? at h
  split at h
  · simp only [Option.bind_eq_bind, Option.bind_eq_some_iff] at h
    obtain ⟨pieces, hpieces, -⟩ := h
    exact isChar_of_pieces? hpieces hc
  · rename_i before after hgap
    simp only [Option.bind_eq_bind, Option.bind_eq_some_iff] at h
    obtain ⟨-, -, front, hfront, back, hback, -⟩ := h
    rw [splitGap_eq_some hgap] at hc
    simp only [List.mem_append, List.mem_cons] at hc
    rcases hc with hc | rfl | rfl | hc
    · exact isChar_of_side? hfront hc
    · exact .inr rfl
    · exact .inr rfl
    · exact isChar_of_side? hback hc

end Ipv6

end Depot.Url
