import Depot.Proofs.Hosts
import Depot.Proofs.HostVerdicts

/-!
Which hosts are refused. Addresses are told by their numbers, so they are refused however they are
written. Names are told by their last label, and the root of all names counts as one: a name that
ends with a dot is never taken for this machine.
-/

namespace Depot

open Text HostPolicy

namespace Url

namespace Ipv4

/-- No host (0.0.0.0), all hosts (255.255.255.255) or an unknown one nearby (169.254.0.0/16). -/
def IsUnroutable (a : Ipv4) : Prop :=
  a.bits.toNat = 0 ∨ a.bits.toNat = 2 ^ 32 - 1 ∨ a.bits.toNat / 2 ^ 16 = 169 * 256 + 254

/-- An address of this machine (127.0.0.0/8). -/
def IsLocal (a : Ipv4) : Prop := a.bits.toNat / 2 ^ 24 = 127

end Ipv4

namespace Host

/-- The labels of a name in small letters. The root of all names is an empty label at the end, and
is mostly left out. -/
def labels (name : String) : List (List Char) := splitAll '.' (lowercase name).toList

/-- A name that ends with the dot in front of the root. -/
def IsRooted : Host → Prop
  | .domain name => [[]] <:+ labels name
  | .ipv4 _ | .ipv6 _ => False

/-- An address that is no host's of its own: none at all (::), one nearby (fe80::/10), or an address
of the old kind for which the same is true. -/
def IsUnroutable : Host → Prop
  | .domain _ => False
  | .ipv4 a => a.IsUnroutable
  | .ipv6 a => a.number = 0 ∨ a.number / 2 ^ 118 = 0xFE80 / 2 ^ 6 ∨
      ∃ b, a.IsMapped b ∧ b.IsUnroutable

/-- A host that is this machine. -/
def IsLoopback : Host → Prop
  | .domain name =>
      ["localhost".toList] <:+ labels name ∨ ["localhost".toList, []] <:+ labels name
  | .ipv4 a => a.IsLocal
  | .ipv6 a => a.number = 1 ∨ ∃ b, a.IsMapped b ∧ b.IsLocal

end Host

end Url

namespace HostPolicy

open Url Host

variable {p : HostPolicy} {u : Url} {host : Host}

/-- How addresses of either kind are checked once they are known not to be listed. -/
theorem reason_eq_none_iff {unroutable linkLocal loopback allowed : Bool} {r r' r'' : Reason} :
    (if unroutable = true then some r
      else if linkLocal = true then some r'
      else if (loopback && !allowed) = true then some r''
      else none) = none ↔
    ¬(unroutable = true ∨ linkLocal = true) ∧ (loopback = true → allowed = true) := by
  cases unroutable <;> cases linkLocal <;> cases loopback <;> cases allowed <;> simp

theorem unlisted_checkIpv4_eq_none_iff {a : Ipv4} : p.unlisted.checkIpv4 a = none ↔
    ¬a.IsUnroutable ∧ (a.IsLocal → p.allowLoopback = true) := by
  rw [checkIpv4, if_neg (by simp [unlisted]), reason_eq_none_iff, Ipv4.IsUnroutable, Ipv4.IsLocal,
    ← Ipv4.isUnspecified_iff, ← Ipv4.isBroadcast_iff, ← Ipv4.isLinkLocal_iff,
    ← Ipv4.isLoopback_iff, Bool.or_eq_true, or_assoc]
  rfl

theorem unlisted_checkIpv6_eq_none_iff {a : Ipv6} (ha : a.IsWhole) :
    p.unlisted.checkIpv6 a = none ↔ ¬(Host.ipv6 a).IsUnroutable ∧
      ((Host.ipv6 a).IsLoopback → p.allowLoopback = true) := by
  rw [checkIpv6, Host.IsUnroutable, Host.IsLoopback]
  cases hmapped : a.mapped? with
  | some b =>
      have hb := (Ipv6.mapped?_eq_some_iff ha).1 hmapped
      obtain ⟨hzero, hone, hlinkLocal⟩ := hb.number_ne
      rw [hb.exists_iff, hb.exists_iff]
      simp only [hzero, hone, hlinkLocal, false_or]
      exact unlisted_checkIpv4_eq_none_iff
  | none =>
      have hnot := (Ipv6.mapped?_eq_none_iff ha).1 hmapped
      dsimp only
      rw [if_neg (by simp [unlisted]), reason_eq_none_iff, ← Ipv6.isUnspecified_iff ha,
        ← Ipv6.isLinkLocal_iff ha, ← Ipv6.isLoopback_iff ha]
      simp only [hnot, false_and, exists_false, or_false]
      rfl

theorem isLocalhost_iff {name : String} : (name == "localhost" ||
    (beforeTail? ".localhost".toList name.toList).isSome) = true ↔
      ["localhost".toList] <:+ splitAll '.' name.toList := by
  rw [singleton_suffix_splitAll (by decide), Bool.or_eq_true, beq_iff_eq, Option.isSome_iff_exists,
    String.toList_inj]
  simp only [beforeTail?_eq_some_iff]
  rfl

theorem not_localhost_of_isRooted {name : String} (h : [[]] <:+ labels name) :
    ¬["localhost".toList] <:+ labels name := fun hlast => by
  have hsame := List.suffix_of_suffix_length_le h hlast (le_refl 1)
  cases hsame.eq_of_length rfl

theorem unlisted_checkDomain_eq_none_iff {name : String} : p.unlisted.checkDomain name = none ↔
    ((Host.domain name).IsLoopback → p.allowLoopback = true ∨ (Host.domain name).IsRooted) := by
  have hrooted : ["localhost".toList, []] <:+ labels name → [[]] <:+ labels name :=
    (List.suffix_cons _ _).trans
  have hchecked : p.unlisted.checkDomain name = none ↔
      (["localhost".toList] <:+ labels name → p.allowLoopback = true) := by
    rw [labels, ← isLocalhost_iff, checkDomain, if_neg (by simp [unlisted])]
    cases hallowed : p.allowLoopback <;> simp [unlisted, hallowed]
  rw [hchecked, Host.IsLoopback, Host.IsRooted]
  constructor
  · rintro h (hlast | hlast)
    · exact .inl (h hlast)
    · exact .inr (hrooted hlast)
  · intro h hlast
    exact (h (.inl hlast)).resolve_right fun hroot => not_localhost_of_isRooted hroot hlast

/-- A host is refused if it is listed, if it is unroutable, and if it is this machine and loopback
is not allowed, whatever it is written like. Only names that end with the dot of the root get
past the last of these. -/
theorem check_eq_none_iff {s : String} (h : parse s = .ok u) (hhost : u.host = some host) :
    p.check u = none ↔ (∀ entry ∈ p.blockedHosts, ¬host.IsNamedBy entry) ∧ ¬host.IsUnroutable ∧
      (host.IsLoopback → p.allowLoopback = true ∨ host.IsRooted) := by
  have hunlisted : p.unlisted.check u = none ↔ ¬host.IsUnroutable ∧
      (host.IsLoopback → p.allowLoopback = true ∨ host.IsRooted) := by
    rw [check, hhost]
    cases host with
    | domain name => simpa [Host.IsUnroutable] using unlisted_checkDomain_eq_none_iff
    | ipv4 a =>
        simpa [Host.IsRooted, Host.IsUnroutable, Host.IsLoopback] using
          unlisted_checkIpv4_eq_none_iff
    | ipv6 a =>
        have ha := isWhole_of_parse h hhost
        simpa [Host.IsRooted] using unlisted_checkIpv6_eq_none_iff ha
  by_cases hnone : ∀ entry ∈ p.blockedHosts, ¬host.IsNamedBy entry
  · rw [check_of_not_isNamedBy hhost hnone, hunlisted]
    exact (and_iff_right hnone).symm
  · obtain ⟨entry, hentry, hnamed⟩ := by simpa using hnone
    rw [check_of_isNamedBy hhost hentry hnamed]
    exact iff_of_false (Option.some_ne_none _) fun hall => hnone hall.1

/-- This machine is refused when it is written as an address of the old kind within the new. -/
theorem check_of_mapped_loopback : ∃ u, parse "http://[::ffff:127.0.0.1]/" = .ok u ∧
    ({} : HostPolicy).check u ≠ none := by
  let a : Ipv6 := ⟨[0, 0, 0, 0, 0, 0xFFFF, 0x7F00, 1]⟩
  let u : Url := { scheme := "http", host := some (.ipv6 a), path := "/" }
  have hu : parse "http://[::ffff:127.0.0.1]/" = .ok u := by decide +kernel
  have hhost : u.host = some (.ipv6 a) := rfl
  refine ⟨u, hu, fun hnone => ?_⟩
  obtain ⟨-, -, hloopback⟩ := (check_eq_none_iff hu hhost).1 hnone
  have hmapped : a.IsMapped ⟨0x7F000001⟩ := by unfold Ipv6.IsMapped; decide
  have hlocal : (⟨0x7F000001⟩ : Ipv4).IsLocal := by unfold Ipv4.IsLocal; decide
  exact (hloopback (.inr ⟨_, hmapped, hlocal⟩)).elim Bool.false_ne_true id

/-- This machine is not refused when the dot of the root follows its name. -/
theorem not_forall_check_loopback : ¬∀ (p : HostPolicy) (s : String) (u : Url) (host : Host),
    parse s = .ok u → (u.scheme = "http" ∨ u.scheme = "https") → u.host = some host →
    (host.IsUnroutable → p.check u ≠ none) ∧
      (p.allowLoopback = false → host.IsLoopback → p.check u ≠ none) := fun hall => by
  let u : Url := { scheme := "http", host := some (.domain "localhost."), path := "/" }
  have hu : parse "http://localhost./" = .ok u := by decide +kernel
  have hlabels : labels "localhost." = ["localhost".toList, []] := by decide
  have hloopback : (Host.domain "localhost.").IsLoopback :=
    .inr ⟨[], by rw [hlabels]; rfl⟩
  exact (hall {} _ u _ hu (.inl rfl) rfl).2 rfl hloopback (by decide)

end HostPolicy

end Depot
