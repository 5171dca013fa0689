import Depot.Proofs.Hosts
import Depot.Proofs.HostVerdicts

/-!
Which entries of the list of blocked hosts have an effect. Entries are compared as text and never
read as hosts, so an entry blocks its host if it is written the way that the host is called, and
has no effect at all if it is written in any other way that URLs have for the same host.
-/

namespace Depot

open Text HostPolicy

namespace Url

variable {u : Url} {host : Host} {a : Ipv6} {entry : String}

/-- The entry is written as the host is called: a name in any letter case with characters that
names in ASCII have, an address in its normal form, and none that stands for one of the old kind. -/
def Host.IsWrittenAs (entry : String) : Host → Prop
  | .domain _ => ∀ c ∈ entry.toList, Domain.IsNameChar c
  | .ipv4 a => entry = (Host.ipv4 a).text
  | .ipv6 a => entry = (Host.ipv6 a).text ∧ ∀ b, ¬a.IsMapped b

def isBracket (c : Char) : Bool := c == '[' || c == ']'

theorem toList_unbracket (entry : String) :
    (unbracket entry).toList = strip isBracket entry.toList := by
  rw [unbracket, String.toList_ofList]
  rfl

theorem isBracket_of_isChar {c : Char} (h : Ipv6.IsChar c) : isBracket c = false := by
  by_contra hbracket
  rw [Bool.not_eq_false, isBracket, Bool.or_eq_true, beq_iff_eq, beq_iff_eq] at hbracket
  rcases hbracket with rfl | rfl <;> exact absurd h (by decide)

theorem isHostChar_of_isChar {c : Char} (h : Ipv6.IsChar c) : IsHostChar c := by
  rcases h with h | rfl
  · exact (isHostChar_of_isNameChar h).1
  · decide

theorem isHostChar_of_isBracket {c : Char} (h : isBracket c = true) : IsHostChar c ∧ c ≠ ':' := by
  rw [isBracket, Bool.or_eq_true, beq_iff_eq, beq_iff_eq] at h
  rcases h with rfl | rfl <;> decide

theorem unbracket_text (a : Ipv6) : unbracket (Host.ipv6 a).text = a.text := by
  rw [← String.toList_inj, toList_unbracket, Host.text, String.toList_append, String.toList_append]
  have hplain {c : Char} (hc : c ∈ a.text.toList) : isBracket c = false :=
    isBracket_of_isChar (Ipv6.isChar_of_mem_text hc)
  have hbare : IsBare isBracket a.text.toList :=
    ⟨fun c hc => hplain (List.mem_of_head? hc), fun c hc => hplain (List.mem_of_getLast? hc)⟩
  refine strip_of_isBare hbare (fun c hc => ?_) fun c hc => ?_
  · rw [List.mem_singleton.1 hc]
    rfl
  · rw [List.mem_singleton.1 hc]
    rfl

/-- Where brackets follow a text without any is told by the first of them. -/
theorem append_brackets_inj {s t brackets : List Char} {c : Char} {rest : List Char}
    (hs : ∀ c ∈ s, isBracket c = false) (hc : isBracket c = true)
    (ht : ∀ c ∈ t, isBracket c = false) (hbrackets : ∀ c ∈ brackets, isBracket c = true)
    (h : s ++ c :: rest = t ++ brackets) : s = t ∧ c :: rest = brackets := by
  have hleft : (s ++ c :: rest).takeWhile (fun c => !isBracket c) = s := by
    rw [List.takeWhile_append_of_pos fun d hd => by simp [hs d hd],
      List.takeWhile_cons_of_neg (by simp [hc]), List.append_nil]
  have hright : (t ++ brackets).takeWhile (fun c => !isBracket c) = t := by
    have hnone : brackets.takeWhile (fun c => !isBracket c) = [] := by
      cases brackets with
      | nil => rfl
      | cons d brackets =>
          exact List.takeWhile_cons_of_neg (by simp [hbrackets d List.mem_cons_self])
    rw [List.takeWhile_append_of_pos fun d hd => by simp [ht d hd], hnone, List.append_nil]
  obtain rfl : s = t := by rw [← hleft, h, hright]
  exact ⟨rfl, List.append_cancel_left h⟩

theorem isHostChar_of_unbracket (hentry : unbracket entry = a.text) :
    ∀ c ∈ entry.toList, IsHostChar c := by
  obtain ⟨before, after, hsplit, hbefore, hafter⟩ := exists_strip isBracket entry.toList
  rw [← toList_unbracket, hentry] at hsplit
  rw [hsplit]
  refine List.forall_mem_append.2 ⟨List.forall_mem_append.2 ⟨fun c hc => ?_, fun c hc => ?_⟩,
    fun c hc => ?_⟩
  · exact (isHostChar_of_isBracket (hbefore c hc)).1
  · exact isHostChar_of_isChar (Ipv6.isChar_of_mem_text hc)
  · exact (isHostChar_of_isBracket (hafter c hc)).1

/-- Up to the slash, brackets behind the one that closes an address are taken for a part of it. -/
theorem hostText_address {brackets : List Char} (hbrackets : ∀ c ∈ brackets, isBracket c = true) :
    hostText .special false ('[' :: (a.text.toList ++ brackets) ++ ['/']) =
      '[' :: (a.text.toList ++ brackets) := by
  have hopened : hostText .special true (a.text.toList ++ (brackets ++ ['/'])) =
      a.text.toList ++ brackets := by
    rw [hostText_bracketed fun c hc => ?_, hostText_append_slash fun c hc => ?_]
    · obtain ⟨hchar, hcolon⟩ := isHostChar_of_isBracket (hbrackets c hc)
      exact ⟨hchar.2.1, hcolon⟩
    · have hchar := Ipv6.isChar_of_mem_text hc
      refine ⟨(isHostChar_of_isChar hchar).2.1, ?_⟩
      rintro rfl
      exact absurd hchar (by decide)
  rw [List.cons_append, List.append_assoc, ← hopened]
  rfl

/-- Between the slashes of a URL there is one bracket on either side of an address. -/
theorem text_of_unbracket (h : parse ("http://" ++ entry ++ "/") = .ok u)
    (hhost : u.host = some (.ipv6 a)) (hentry : unbracket entry = a.text) :
    entry = (Host.ipv6 a).text := by
  obtain ⟨text, hread, htext⟩ := host_of_parse_http h hhost
  have htext := htext (isHostChar_of_unbracket hentry)
  have hplain : ∀ c ∈ a.text.toList, isBracket c = false := fun c hc =>
    isBracket_of_isChar (Ipv6.isChar_of_mem_text hc)
  -- What is read begins with a bracket, and the address follows up to the next one.
  obtain ⟨inner, hinner, hparse⟩ := Host.parse?_of_parse hread
  have hchars : ∀ c ∈ inner, Ipv6.IsChar c := fun c hc => Ipv6.isChar_of_parse? hparse hc
  obtain ⟨more, hmore⟩ := exists_hostText_slash .special false entry.toList
  rw [← htext, hinner, List.append_assoc, List.singleton_append] at hmore
  -- Taking the brackets off leaves the same address.
  have hstripped : dropEndWhile isBracket (inner ++ ']' :: more) = a.text.toList := by
    rw [← hentry, toList_unbracket, strip, hmore, List.cons_append,
      List.dropWhile_cons_of_pos (by decide)]
    cases inner with
    | nil => cases hparse
    | cons c inner =>
        rw [List.cons_append, List.dropWhile_cons_of_neg]
        simp [isBracket_of_isChar (hchars c List.mem_cons_self)]
  obtain ⟨after, hafter, hbrackets⟩ := exists_dropEndWhile isBracket (inner ++ ']' :: more)
  rw [hstripped] at hafter
  obtain ⟨rfl, rfl⟩ := append_brackets_inj
    (fun c hc => isBracket_of_isChar (hchars c hc)) rfl hplain hbrackets hafter
  -- Further brackets would have been read as well.
  obtain rfl : more = [] := by
    have hall := htext.symm.trans hinner
    rw [hmore, List.cons_append, hostText_address hbrackets] at hall
    simpa using hall
  rw [← String.toList_inj, hmore, Host.text, String.toList_append, String.toList_append]
  rfl

theorem lowercase_eq_iff {name : String} (h : parse ("http://" ++ entry ++ "/") = .ok u)
    (hhost : u.host = some (.domain name)) :
    lowercase entry = lowercase name ↔ ∀ c ∈ entry.toList, Domain.IsNameChar c := by
  rw [lowercase, lowercase, String.ofList_inj]
  constructor
  · intro hsame c hc
    obtain ⟨text, hread, -⟩ := host_of_parse_http h hhost
    have hmem : c.toLower ∈ name.toList.map Char.toLower := hsame ▸ List.mem_map_of_mem hc
    obtain ⟨d, hd, hlower⟩ := List.mem_map.1 hmem
    rw [← Domain.isNameChar_toLower, ← hlower, Domain.isNameChar_toLower]
    exact Domain.isNameChar_of_mem_toAscii? (Host.toAscii?_of_parse hread) d hd
  · intro hall
    have hname := Domain.toAscii?_of_isNameChar hall
      (Host.toAscii?_of_parse (parse_of_isNameChar h hhost hall))
    rw [hname, List.map_map]
    exact List.map_congr_left fun c _ => (Domain.toLower_toLower c).symm

/-- No address between brackets is written like one of the old kind. -/
theorem ne_text_of_parse {b : Ipv4} (h : parse ("http://" ++ entry ++ "/") = .ok u)
    (hhost : u.host = some (.ipv6 a)) : entry ≠ b.text := by
  rintro rfl
  obtain ⟨inner, hbracket, -⟩ := Host.parse?_of_parse
    (parse_of_isNameChar h hhost fun c hc => Ipv4.isNameChar_of_mem_text hc)
  have hmem : '[' ∈ b.text.toList := by simp [hbracket]
  exact absurd (Ipv4.isNameChar_of_mem_text hmem) (by decide)

theorem isNamedBy_iff (h : parse ("http://" ++ entry ++ "/") = .ok u) (hhost : u.host = some host) :
    host.IsNamedBy entry ↔ host.IsWrittenAs entry := by
  cases host with
  | domain name => exact lowercase_eq_iff h hhost
  | ipv4 a => rfl
  | ipv6 a =>
      have ha := isWhole_of_parse h hhost
      rw [Host.IsNamedBy, Host.IsWrittenAs]
      cases hmapped : a.mapped? with
      | some b =>
          exact iff_of_false (ne_text_of_parse h hhost) fun hwritten =>
            hwritten.2 b ((Ipv6.mapped?_eq_some_iff ha).1 hmapped)
      | none =>
          have hnot := (Ipv6.mapped?_eq_none_iff ha).1 hmapped
          constructor
          · exact fun hname => ⟨text_of_unbracket h hhost hname, hnot⟩
          · rintro ⟨rfl, -⟩
            exact unbracket_text a

end Url

namespace HostPolicy

open Url Host

/-- An entry that is read as a host blocks all URLs of this host if it is written as the host is
called, and is as good as not there if not. -/
theorem check_of_listed {p : HostPolicy} {entry : String} {v u : Url} {host : Host}
    (hv : parse ("http://" ++ entry ++ "/") = .ok v) (hvhost : v.host = some host)
    (hentry : entry ∈ p.blockedHosts) (hhost : u.host = some host) :
    (host.IsWrittenAs entry → p.check u = some (.blocked host.spelling)) ∧
    (¬host.IsWrittenAs entry → p.check u =
      HostPolicy.check { p with blockedHosts := p.blockedHosts.filter (· ≠ entry) } u) := by
  rw [← isNamedBy_iff hv hvhost]
  refine ⟨check_of_isNamedBy hhost hentry, fun hnot => check_congr hhost rfl ?_⟩
  constructor
  · rintro ⟨entry', hentry', hname⟩
    refine ⟨entry', List.mem_filter.2 ⟨hentry', decide_eq_true ?_⟩, hname⟩
    rintro rfl
    exact hnot hname
  · rintro ⟨entry', hentry', hname⟩
    exact ⟨entry', List.mem_of_mem_filter hentry', hname⟩

/-- An address in its normal form is blocked, the same address in large letters is not. -/
theorem check_of_listed_spellings : ∃ u, parse "https://[2001:DB8::1]/" = .ok u ∧
    HostPolicy.check { blockedHosts := ["[2001:db8::1]"] } u = some (.blocked "2001:db8::1") ∧
    HostPolicy.check { blockedHosts := ["[2001:DB8::1]"] } u = HostPolicy.check {} u := by
  let a : Ipv6 := ⟨[0x2001, 0xDB8, 0, 0, 0, 0, 0, 1]⟩
  let url (scheme : String) : Url := { scheme, host := some (.ipv6 a), path := "/" }
  have hsmall : parse ("http://" ++ "[2001:db8::1]" ++ "/") = .ok (url "http") := by decide +kernel
  have hlarge : parse ("http://" ++ "[2001:DB8::1]" ++ "/") = .ok (url "http") := by decide +kernel
  have hmapped (b : Ipv4) : ¬a.IsMapped b := fun hb => by
    have hnumber : a.number = 0x20010DB8000000000000000000000001 := by decide
    have := b.bits.toNat_lt
    unfold Ipv6.IsMapped at hb
    omega
  have hhost (scheme : String) : (url scheme).host = some (.ipv6 a) := rfl
  refine ⟨url "https", by decide +kernel, ?_, ?_⟩
  · exact (check_of_listed hsmall (hhost "http") List.mem_cons_self (hhost "https")).1
      ⟨by decide, hmapped⟩
  · exact (check_of_listed hlarge (hhost "http") List.mem_cons_self (hhost "https")).2
      fun hwritten => absurd hwritten.1 (by decide)

/-- An address of the old kind is not blocked by the entry that it is written as within the new. -/
theorem not_forall_check_of_listed :
    ¬∀ (p : HostPolicy) (entry s : String) (v u : Url) (host : Host),
      parse ("http://" ++ entry ++ "/") = .ok v → v.host = some host → entry ∈ p.blockedHosts →
      parse s = .ok u → (u.scheme = "http" ∨ u.scheme = "https") → u.host = some host →
      p.check u ≠ none := fun hall => by
  let entry := "[::ffff:102:304]"
  let a : Ipv6 := ⟨[0, 0, 0, 0, 0, 0xFFFF, 0x102, 0x304]⟩
  let u : Url := { scheme := "http", host := some (.ipv6 a), path := "/" }
  have hu : parse ("http://" ++ entry ++ "/") = .ok u := by decide +kernel
  exact hall { blockedHosts := [entry] } entry _ u u (.ipv6 a) hu rfl List.mem_cons_self hu
    (.inl rfl) rfl (by decide)

end HostPolicy

end Depot
