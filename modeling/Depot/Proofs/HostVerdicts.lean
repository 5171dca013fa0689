import Depot.HostPolicy
import Mathlib.Data.List.Basic

/-!
What a host policy says about a host. The listed hosts matter only through whether one of them has
the spelling that the host is compared by; all other reasons lie in the host itself.
-/

namespace Depot

namespace Url.Host

open HostPolicy

variable {host : Host}

/-- The text that a host is called by when it is refused. Addresses of the new kind that stand for
one of the old are called by that. -/
def spelling : Host → String
  | .domain name => lowercase name
  | .ipv4 a => a.text
  | .ipv6 a =>
      match a.mapped? with
      | some b => b.text
      | none => a.text

/-- An entry of the list of blocked hosts that this host is compared with and found equal to. -/
def IsNamedBy (entry : String) : Host → Prop
  | .domain name => lowercase entry = lowercase name
  | .ipv4 a => entry = a.text
  | .ipv6 a =>
      match a.mapped? with
      | some b => entry = b.text
      | none => unbracket entry = a.text

end Url.Host

namespace HostPolicy

open Url Host

variable {p : HostPolicy} {u : Url} {host : Host}

/-- The policy without its list of blocked hosts. -/
def unlisted (p : HostPolicy) : HostPolicy := { p with blockedHosts := [] }

theorem checkIpv4_of_mem {a : Ipv4} (h : a.text ∈ p.blockedHosts) :
    p.checkIpv4 a = some (.blocked a.text) :=
  if_pos (List.contains_iff_mem.2 h)

theorem checkIpv4_of_notMem {a : Ipv4} (h : a.text ∉ p.blockedHosts) :
    p.checkIpv4 a = p.unlisted.checkIpv4 a :=
  if_neg (List.contains_iff_mem.not.2 h)

theorem check_of_isNamedBy (hhost : u.host = some host) {entry : String}
    (hentry : entry ∈ p.blockedHosts) (hnamed : host.IsNamedBy entry) :
    p.check u = some (.blocked host.spelling) := by
  rw [check, hhost]
  cases host with
  | domain name =>
      have hany : p.blockedHosts.any (fun h => lowercase h == lowercase name) = true :=
        List.any_eq_true.2 ⟨entry, hentry, beq_iff_eq.2 hnamed⟩
      exact if_pos hany
  | ipv4 a =>
      cases hnamed
      exact checkIpv4_of_mem hentry
  | ipv6 a =>
      dsimp only [checkIpv6, IsNamedBy, spelling] at hnamed ⊢
      cases hmapped : a.mapped? with
      | some b =>
          rw [hmapped] at hnamed
          cases hnamed
          exact checkIpv4_of_mem hentry
      | none =>
          rw [hmapped] at hnamed
          have hany : p.blockedHosts.any (fun h => unbracket h == a.text) = true :=
            List.any_eq_true.2 ⟨entry, hentry, beq_iff_eq.2 hnamed⟩
          exact if_pos hany

theorem check_of_not_isNamedBy (hhost : u.host = some host)
    (hnone : ∀ entry ∈ p.blockedHosts, ¬host.IsNamedBy entry) :
    p.check u = p.unlisted.check u := by
  rw [check, check, hhost]
  cases host with
  | domain name =>
      have hany : p.blockedHosts.any (fun h => lowercase h == lowercase name) = false :=
        List.any_eq_false.2 fun entry hentry heq => hnone entry hentry (beq_iff_eq.1 heq)
      dsimp only [checkDomain]
      rw [hany]
      rfl
  | ipv4 a => exact checkIpv4_of_notMem fun hmem => hnone _ hmem rfl
  | ipv6 a =>
      dsimp only [checkIpv6, IsNamedBy] at hnone ⊢
      cases hmapped : a.mapped? with
      | some b =>
          rw [hmapped] at hnone
          exact checkIpv4_of_notMem fun hmem => hnone _ hmem rfl
      | none =>
          rw [hmapped] at hnone
          have hany : p.blockedHosts.any (fun h => unbracket h == a.text) = false :=
            List.any_eq_false.2 fun entry hentry heq => hnone entry hentry (beq_iff_eq.1 heq)
          dsimp only
          rw [hany]
          rfl

/-- Only whether an entry names the host is asked of the list. -/
theorem check_congr {p' : HostPolicy} (hhost : u.host = some host)
    (hloopback : p.allowLoopback = p'.allowLoopback)
    (hlisted : (∃ entry ∈ p.blockedHosts, host.IsNamedBy entry) ↔
      ∃ entry ∈ p'.blockedHosts, host.IsNamedBy entry) : p.check u = p'.check u := by
  by_cases hnamed : ∃ entry ∈ p.blockedHosts, host.IsNamedBy entry
  · obtain ⟨entry, hentry, hname⟩ := id hnamed
    obtain ⟨entry', hentry', hname'⟩ := hlisted.1 hnamed
    rw [check_of_isNamedBy hhost hentry hname, check_of_isNamedBy hhost hentry' hname']
  · have hnamed' := mt hlisted.2 hnamed
    have hsame : p.unlisted = p'.unlisted := by rw [unlisted, unlisted, hloopback]
    rw [check_of_not_isNamedBy hhost fun entry hentry hname => hnamed ⟨entry, hentry, hname⟩,
      check_of_not_isNamedBy hhost fun entry hentry hname => hnamed' ⟨entry, hentry, hname⟩, hsame]

end HostPolicy

end Depot
