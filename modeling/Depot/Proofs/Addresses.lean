import Depot.HostPolicy
import Depot.Proofs.Results
import Depot.Proofs.VersionText
import Mathlib.Algebra.Group.Nat.Defs
import Mathlib.Data.Option.Basic

/-!
Addresses as numbers. Whatever way an address is written in a URL, it is one number of 32 or of 128
bits, and the kinds of addresses are blocks of these numbers.
-/

namespace Depot

open Text

theorem Text.Natural.read_lt {bound n : Nat} {s : List Char} (hbound : 0 < bound)
    (h : read bound s = .ok n) : n < bound := by
  unfold read at h
  split at h
  · cases h
  · cases h
  · exact continue?_lt hbound h
  · exact continue?_lt hbound h

namespace Url

namespace Ipv6

variable {a : Ipv6} {b : Ipv4} {s : List Char}

/-- Eight pieces of 16 bits each. -/
structure IsWhole (a : Ipv6) : Prop where
  length : a.pieces.length = 8
  lt : ∀ n ∈ a.pieces, n < 2 ^ 16

theorem foldlM_hexValue?_lt {n m : Nat}
    (h : s.foldlM (fun n c => (hexValue? c).map fun d => n * 16 + d) n = some m) :
    m < (n + 1) * 16 ^ s.length := by
  induction s generalizing n with
  | nil =>
      cases h
      simp
  | cons c s ih =>
      rw [List.foldlM_cons] at h
      obtain ⟨k, hk, hrest⟩ := Option.bind_eq_some_iff.1 h
      obtain ⟨d, hd, rfl⟩ := Option.map_eq_some_iff.1 hk
      have hlt := (hexValue?_eq_some hd).2
      calc m < (n * 16 + d + 1) * 16 ^ s.length := ih hrest
        _ ≤ ((n + 1) * 16) * 16 ^ s.length := Nat.mul_le_mul_right _ (by omega)
        _ = (n + 1) * 16 ^ (c :: s).length := by
          rw [List.length_cons, Nat.pow_succ, Nat.mul_assoc, Nat.mul_comm 16]

theorem piece?_lt {n : Nat} (h : piece? s = some n) : n < 2 ^ 16 := by
  unfold piece? at h
  split at h
  · cases h
  · rename_i hshort
    rw [not_or, Nat.not_lt] at hshort
    calc n < (0 + 1) * 16 ^ s.length := foldlM_hexValue?_lt h
      _ ≤ (0 + 1) * 16 ^ 4 := Nat.mul_le_mul_left _ (Nat.pow_le_pow_right (by decide) hshort.2)
      _ = 2 ^ 16 := by decide

theorem octet?_lt {n : Nat} (h : octet? s = some n) : n < 256 := by
  simp only [octet?, Option.bind_eq_bind, Option.bind_eq_some_iff] at h
  obtain ⟨-, -, k, hk, -, -, h⟩ := h
  cases h
  cases hread : Natural.read 256 s with
  | error e => rw [hread] at hk; cases hk
  | ok m =>
      rw [hread] at hk
      cases hk
      exact Natural.read_lt (by decide) hread

theorem dotted?_lt {pieces : List Nat} (h : dotted? s = some pieces) :
    ∀ n ∈ pieces, n < 2 ^ 16 := by
  simp only [dotted?, Option.bind_eq_bind, Option.bind_eq_some_iff] at h
  obtain ⟨octets, hoctets, h⟩ := h
  have hlt : ∀ n ∈ octets, n < 256 := fun n hn => by
    obtain ⟨part, -, hpart⟩ := exists_of_mem_mapM hoctets hn
    exact octet?_lt hpart
  split at h
  · cases h
    simp only [List.forall_mem_cons] at hlt ⊢
    exact ⟨by omega, by omega, by simp⟩
  · cases h

theorem pieces?_lt {parts : List (List Char)} {pieces : List Nat}
    (h : pieces? parts = some pieces) : ∀ n ∈ pieces, n < 2 ^ 16 := by
  fun_induction pieces? parts generalizing pieces with
  | case1 =>
      cases h
      simp
  | case2 last hdotted => exact dotted?_lt h
  | case3 last hdotted =>
      obtain ⟨n, hn, rfl⟩ := Option.map_eq_some_iff.1 h
      simpa using piece?_lt hn
  | case4 part parts hne ih =>
      simp only [Option.bind_eq_bind, Option.bind_eq_some_iff] at h
      obtain ⟨n, hn, more, hmore, h⟩ := h
      cases h
      exact List.forall_mem_cons.2 ⟨piece?_lt hn, ih hmore⟩

theorem side?_lt {pieces : List Nat} (h : side? s = some pieces) : ∀ n ∈ pieces, n < 2 ^ 16 := by
  unfold side? at h
  split at h
  · cases h
    simp
  · exact pieces?_lt h

theorem isWhole_of_parse? (h : parse? s = some a) : a.IsWhole := by
  unfold parse? at h
  split at h
  · simp only [Option.bind_eq_bind, Option.bind_eq_some_iff] at h
    obtain ⟨pieces, hpieces, _, hlength, h⟩ := h
    cases h
    simp only [Option.guard_eq_some', beq_iff_eq] at hlength
    exact ⟨hlength, pieces?_lt hpieces⟩
  · simp only [Option.bind_eq_bind, Option.bind_eq_some_iff] at h
    obtain ⟨-, -, front, hfront, back, hback, _, hlength, h⟩ := h
    cases h
    simp only [Option.guard_eq_some'] at hlength
    constructor
    · simp only [List.length_append, List.length_replicate]
      omega
    · simp only [List.forall_mem_append]
      refine ⟨⟨side?_lt hfront, fun n hn => ?_⟩, side?_lt hback⟩
      rw [(List.mem_replicate.1 hn).2]
      decide

/-- The 128 bits of an address. -/
def number (a : Ipv6) : Nat := a.pieces.foldl (fun n piece => n * 2 ^ 16 + piece) 0

theorem IsWhole.exists_pieces (h : a.IsWhole) : ∃ p₀ p₁ p₂ p₃ p₄ p₅ p₆ p₇ : Nat,
    a.pieces = [p₀, p₁, p₂, p₃, p₄, p₅, p₆, p₇] ∧
    (p₀ < 2 ^ 16 ∧ p₁ < 2 ^ 16 ∧ p₂ < 2 ^ 16 ∧ p₃ < 2 ^ 16) ∧
    p₄ < 2 ^ 16 ∧ p₅ < 2 ^ 16 ∧ p₆ < 2 ^ 16 ∧ p₇ < 2 ^ 16 := by
  obtain ⟨hlength, hlt⟩ := h
  match hpieces : a.pieces, hlength with
  | [p₀, p₁, p₂, p₃, p₄, p₅, p₆, p₇], _ =>
      rw [hpieces] at hlt
      simp only [List.forall_mem_cons] at hlt
      obtain ⟨h₀, h₁, h₂, h₃, h₄, h₅, h₆, h₇, -⟩ := hlt
      exact ⟨p₀, p₁, p₂, p₃, p₄, p₅, p₆, p₇, rfl, ⟨h₀, h₁, h₂, h₃⟩, h₄, h₅, h₆, h₇⟩

theorem isUnspecified_iff (h : a.IsWhole) : a.isUnspecified = true ↔ a.number = 0 := by
  obtain ⟨p₀, p₁, p₂, p₃, p₄, p₅, p₆, p₇, hpieces, hfront, hback⟩ := h.exists_pieces
  simp only [isUnspecified, number, hpieces, beq_iff_eq, List.cons.injEq, List.foldl_cons,
    List.foldl_nil, and_true]
  omega

theorem isLoopback_iff (h : a.IsWhole) : a.isLoopback = true ↔ a.number = 1 := by
  obtain ⟨p₀, p₁, p₂, p₃, p₄, p₅, p₆, p₇, hpieces, hfront, hback⟩ := h.exists_pieces
  simp only [isLoopback, number, hpieces, beq_iff_eq, List.cons.injEq, List.foldl_cons,
    List.foldl_nil, and_true]
  omega

theorem isLinkLocal_iff (h : a.IsWhole) :
    a.isLinkLocal = true ↔ a.number / 2 ^ 118 = 0xFE80 / 2 ^ 6 := by
  obtain ⟨p₀, p₁, p₂, p₃, p₄, p₅, p₆, p₇, hpieces, hfront, hback⟩ := h.exists_pieces
  simp only [isLinkLocal, number, hpieces, beq_iff_eq, List.headD_cons, List.foldl_cons,
    List.foldl_nil]
  omega

/-- The address is that of the old kind behind 80 bits of zeros and 16 of ones. -/
def IsMapped (a : Ipv6) (b : Ipv4) : Prop := a.number = 0xFFFF * 2 ^ 32 + b.bits.toNat

theorem mapped?_eq_some_iff (h : a.IsWhole) : a.mapped? = some b ↔ a.IsMapped b := by
  obtain ⟨p₀, p₁, p₂, p₃, p₄, p₅, p₆, p₇, hpieces, hfront, hback⟩ := h.exists_pieces
  have hb := b.bits.toNat_lt
  have hnumber : a.number = (((((((p₀ * 2 ^ 16 + p₁) * 2 ^ 16 + p₂) * 2 ^ 16 + p₃) * 2 ^ 16 + p₄) *
      2 ^ 16 + p₅) * 2 ^ 16 + p₆) * 2 ^ 16 + p₇) := by
    simp [number, hpieces]
  rw [IsMapped, hnumber, mapped?, hpieces]
  split
  · rename_i hi lo heq
    simp only [List.cons.injEq, and_true] at heq
    obtain ⟨rfl, rfl, rfl, rfl, rfl, rfl, rfl, rfl⟩ := heq
    rw [Option.some.injEq]
    constructor
    · rintro rfl
      simp only [UInt32.toNat_ofNat']
      omega
    · intro hsame
      cases b with
      | mk bits =>
          rw [Ipv4.mk.injEq, ← UInt32.toNat_inj, UInt32.toNat_ofNat']
          dsimp only at hsame hb
          omega
  · rename_i hother
    refine iff_of_false (by simp) fun hsame => hother p₆ p₇ ?_
    simp only [List.cons.injEq, and_true]
    omega

theorem mapped?_eq_none_iff (h : a.IsWhole) : a.mapped? = none ↔ ∀ b, ¬a.IsMapped b := by
  simp only [Option.eq_none_iff_forall_not_mem, Option.mem_def, mapped?_eq_some_iff h]

theorem IsMapped.unique {b' : Ipv4} (hb : a.IsMapped b) (hb' : a.IsMapped b') : b = b' := by
  cases b
  cases b'
  rw [Ipv4.mk.injEq, ← UInt32.toNat_inj]
  exact Nat.add_left_cancel (hb.symm.trans hb')

/-- Whatever is said of the one address that this one stands for. -/
theorem IsMapped.exists_iff (hb : a.IsMapped b) {P : Ipv4 → Prop} :
    (∃ b', a.IsMapped b' ∧ P b') ↔ P b :=
  ⟨fun ⟨_, hb', hp⟩ => hb.unique hb' ▸ hp, fun hp => ⟨b, hb, hp⟩⟩

/-- Such addresses are none of the special ones of the new kind. -/
theorem IsMapped.number_ne (hb : a.IsMapped b) :
    a.number ≠ 0 ∧ a.number ≠ 1 ∧ a.number / 2 ^ 118 ≠ 0xFE80 / 2 ^ 6 := by
  have := b.bits.toNat_lt
  unfold IsMapped at hb
  omega

end Ipv6

namespace Ipv4

variable {a : Ipv4}

theorem isLoopback_iff : a.isLoopback = true ↔ a.bits.toNat / 2 ^ 24 = 127 := by
  have := a.bits.toNat_lt
  simp only [isLoopback, octet, beq_iff_eq, Nat.pow_eq]
  omega

theorem isLinkLocal_iff : a.isLinkLocal = true ↔ a.bits.toNat / 2 ^ 16 = 169 * 256 + 254 := by
  have := a.bits.toNat_lt
  simp only [isLinkLocal, octet, beq_iff_eq, Bool.and_eq_true, Nat.pow_eq]
  omega

theorem isUnspecified_iff : a.isUnspecified = true ↔ a.bits.toNat = 0 := by
  rw [isUnspecified, beq_iff_eq, ← UInt32.toNat_inj]
  rfl

theorem isBroadcast_iff : a.isBroadcast = true ↔ a.bits.toNat = 2 ^ 32 - 1 := by
  rw [isBroadcast, beq_iff_eq, ← UInt32.toNat_inj]
  rfl

end Ipv4

end Url

end Depot
