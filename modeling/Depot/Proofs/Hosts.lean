import Depot.Proofs.AddressText
import Depot.Proofs.Stripping

/-!
Where the hosts of URLs come from. Whatever stands around it, a host is what one text is read as,
and between the slashes of a URL that text is taken as it is if it could be a name.
-/

namespace Depot.Url

open Text

variable {s : List Char} {u : Url} {host : Host}

/-- What a text in the place of a host is read as. -/
def readHost (scheme : String) (text : List Char) : Except Error Host :=
  if kind scheme == .special then Host.parse text else Host.parseOpaque text

theorem host_of_parseAuthority {scheme : String} (h : parseAuthority scheme s = .ok u)
    (hhost : u.host = some host) : ∃ username password rest,
      userinfo (kind scheme) s = .ok (username, password, rest) ∧
      readHost scheme (hostText (kind scheme) false rest) = .ok host ∧
      (kind scheme = .special → hostText (kind scheme) false rest ≠ []) := by
  have hkept {found : Host}
      (h : (if (found == .domain "") = true then none else some found) = some host) :
      found = host := by
    split at h
    · cases h
    · exact Option.some.inj h
  unfold parseAuthority at h
  obtain ⟨⟨username, password, rest⟩, huser, h⟩ := bind_eq_ok.1 h
  refine ⟨username, password, rest, huser, ?_⟩
  rw [readHost]
  dsimp only at h
  split at h
  · rename_i hspecial
    rw [if_pos hspecial]
    split at h
    · cases h
    · rename_i hne
      obtain ⟨found, hfound, h⟩ := bind_eq_ok.1 h
      split at h
      · cases h
      · obtain ⟨_, -, h⟩ := bind_eq_ok.1 h
        cases h
        exact ⟨by rw [hfound, hkept hhost], fun _ => by simpa using hne⟩
  · rename_i hother
    rw [if_neg hother]
    obtain ⟨found, hfound, h⟩ := bind_eq_ok.1 h
    split at h
    · cases h
    · obtain ⟨_, -, h⟩ := bind_eq_ok.1 h
      cases h
      exact ⟨by rw [hfound, hkept hhost], fun hspecial => absurd (beq_iff_eq.2 hspecial) hother⟩

theorem host_of_filePath {found : Option Host} {t : Tail}
    (hhost : (filePath found t).host = some host) : found = some host := by
  have hkept {isDrive : Bool} (h : (if isDrive then none else found) = some host) :
      found = some host := by
    cases isDrive with
    | true => cases h
    | false => exact h
  exact hkept hhost

theorem host_of_parseFile (h : parseFile s = .ok u) (hhost : u.host = some host) :
    ∃ text, Host.parse text = .ok host := by
  unfold parseFile at h
  dsimp only at h
  split at h
  · split at h
    · split at h
      · cases h
        cases host_of_filePath hhost
      · split at h
        · cases h
          cases host_of_filePath hhost
        · split at h
          · cases h
          · rename_i found hfound
            cases h
            have hkept := host_of_filePath hhost
            split at hkept
            · cases hkept
            · cases hkept
              exact ⟨_, hfound⟩
    · cases h
      cases host_of_filePath hhost
  · cases h
    cases host_of_filePath hhost

/-- Every host is what some text is read as. -/
theorem host_of_parse {s : String} (h : parse s = .ok u) (hhost : u.host = some host) :
    ∃ text, Host.parse text = .ok host ∨ Host.parseOpaque text = .ok host := by
  have hauthority {scheme : String} {rest : List Char} (h : parseAuthority scheme rest = .ok u) :
      ∃ text, Host.parse text = .ok host ∨ Host.parseOpaque text = .ok host := by
    obtain ⟨-, -, rest, -, hread, -⟩ := host_of_parseAuthority h hhost
    unfold readHost at hread
    split at hread
    · exact ⟨_, .inl hread⟩
    · exact ⟨_, .inr hread⟩
  unfold parse at h
  split at h
  · cases h
  · split at h
    · obtain ⟨text, htext⟩ := host_of_parseFile h hhost
      exact ⟨text, .inl htext⟩
    · exact hauthority h
    · split at h
      · exact hauthority h
      · cases h
        cases hhost

namespace Host

theorem parseBracketed_eq_ok (h : parseBracketed s = .ok host) :
    ∃ inner a, s = inner ++ [']'] ∧ Ipv6.parse? inner = some a ∧ host = .ipv6 a := by
  unfold parseBracketed at h
  split at h
  · cases h
  · rename_i inner hinner
    split at h
    · rename_i a ha
      cases h
      exact ⟨inner, a, beforeTail?_eq_some_iff.1 hinner, ha, rfl⟩
    · cases h

/-- Addresses of the new kind are told by their bracket. All else is brought to ASCII, and is an
address if it ends in a number. -/
theorem parse_eq_ok (h : parse s = .ok host) :
    (∃ rest, s = '[' :: rest ∧ parseBracketed rest = .ok host) ∨
    (s.head? ≠ some '[' ∧ ∃ name, Domain.toAscii? (Percent.decode s) = some name ∧
      ((∃ a, Ipv4.parse? name = some a ∧ host = .ipv4 a) ∨
        host = .domain (String.ofList name))) := by
  unfold parse at h
  split at h
  · exact .inl ⟨_, rfl, h⟩
  · rename_i hbracket
    refine .inr ⟨fun hhead => ?_, ?_⟩
    · obtain ⟨rest, rfl⟩ := List.head?_eq_some_iff.1 hhead
      exact hbracket rest rfl
    · split at h
      · cases h
      · cases h
      · rename_i name _ hname
        refine ⟨name, hname, ?_⟩
        split at h
        · split at h
          · rename_i a ha
            cases h
            exact .inl ⟨a, ha, rfl⟩
          · cases h
        · cases h
          exact .inr rfl

theorem toAscii?_of_parse {name : String} (h : parse s = .ok (.domain name)) :
    Domain.toAscii? (Percent.decode s) = some name.toList := by
  rcases parse_eq_ok h with ⟨rest, -, hbracketed⟩ | ⟨-, found, hfound, ⟨a, -, ha⟩ | hname⟩
  · obtain ⟨inner, a, -, -, ha⟩ := parseBracketed_eq_ok hbracketed
    cases ha
  · cases ha
  · cases hname
    rw [String.toList_ofList, hfound]

theorem parse?_of_parse {a : Ipv6} (h : parse s = .ok (.ipv6 a)) :
    ∃ inner, s = '[' :: inner ++ [']'] ∧ Ipv6.parse? inner = some a := by
  rcases parse_eq_ok h with ⟨rest, rfl, hbracketed⟩ | ⟨-, found, -, ⟨b, -, hb⟩ | hname⟩
  · obtain ⟨inner, a', rfl, ha', hsame⟩ := parseBracketed_eq_ok hbracketed
    cases hsame
    exact ⟨inner, rfl, ha'⟩
  · cases hb
  · cases hname

end Host

theorem isWhole_of_parse {s : String} {a : Ipv6} (h : parse s = .ok u)
    (hhost : u.host = some (.ipv6 a)) : a.IsWhole := by
  obtain ⟨text, h | h⟩ := host_of_parse h hhost
  · obtain ⟨inner, -, ha⟩ := Host.parse?_of_parse h
    exact Ipv6.isWhole_of_parse? ha
  · unfold Host.parseOpaque at h
    split at h
    · obtain ⟨inner, a', -, ha', hsame⟩ := Host.parseBracketed_eq_ok h
      cases hsame
      exact Ipv6.isWhole_of_parse? ha'
    · split at h <;> cases h

/-- A character that a URL for a server neither drops nor cuts the text of its host at, unless it is
a colon. -/
def IsHostChar (c : Char) : Prop :=
  0x20 < c.toNat ∧ endsAuthority .special c = false ∧ c ≠ '@'

instance (c : Char) : Decidable (IsHostChar c) := inferInstanceAs (Decidable (_ ∧ _))

theorem clean_http (entry : List Char) : clean ("http://".toList ++ entry ++ ['/']) =
    "http://".toList ++ (entry.filter fun c => c != '\t' && c != '\n' && c != '\r') ++ ['/'] := by
  have hbare : IsBare (fun c => decide (c.toNat ≤ 0x20)) ("http://".toList ++ entry ++ ['/']) := by
    constructor
    · intro c hc
      obtain rfl : 'h' = c := by simpa using hc
      decide
    · intro c hc
      rw [List.getLast?_concat, Option.some.injEq] at hc
      subst hc
      decide
  have hstripped := strip_eq_self hbare
  unfold strip at hstripped
  unfold clean
  dsimp only
  rw [hstripped, List.filter_append, List.filter_append]
  rfl

theorem parse_http (entry : String) : parse ("http://" ++ entry ++ "/") =
    parseAuthority "http" ((['/', '/'] ++ (entry.toList.filter fun c =>
      c != '\t' && c != '\n' && c != '\r') ++ ['/']).dropWhile fun c => c == '/' || c == '\\') := by
  have hscheme (rest : List Char) :
      scheme? ("http://".toList ++ rest) = some ("http", ['/', '/'] ++ rest) := by
    have hsplit : splitFirst ':' ("http://".toList ++ rest) =
        some ("http".toList, ['/', '/'] ++ rest) := rfl
    rw [scheme?, hsplit]
    rfl
  have htext : ("http://" ++ entry ++ "/").toList = "http://".toList ++ entry.toList ++ ['/'] := by
    rw [String.toList_append, String.toList_append]
    rfl
  rw [parse, htext, clean_http, List.append_assoc, hscheme, ← List.append_assoc]
  rfl

theorem userinfo_of_isHostChar (hs : ∀ c ∈ s, IsHostChar c) :
    userinfo .special (s ++ ['/']) = .ok ("", none, s ++ ['/']) := by
  have hauthority : (s ++ ['/']).takeWhile (fun c => !endsAuthority .special c) = s := by
    rw [List.takeWhile_append_of_pos fun c hc => by simp [(hs c hc).2.1]]
    exact List.append_nil s
  have hat : splitLast '@' s = none := splitLast_eq_none.2 fun hmem => (hs _ hmem).2.2 rfl
  unfold userinfo
  dsimp only
  rw [hauthority, hat]

/-- Between the slashes of a URL for a server, a host is taken from the whole text if none of its
characters belongs to anything else. -/
theorem host_of_parse_http {entry : String} (h : parse ("http://" ++ entry ++ "/") = .ok u)
    (hhost : u.host = some host) : ∃ text, Host.parse text = .ok host ∧
      ((∀ c ∈ entry.toList, IsHostChar c) →
        text = hostText .special false (entry.toList ++ ['/'])) := by
  rw [parse_http] at h
  obtain ⟨username, password, rest, huser, hread, hne⟩ := host_of_parseAuthority h hhost
  refine ⟨hostText .special false rest, hread, fun hall => ?_⟩
  have hkept : (entry.toList.filter fun c => c != '\t' && c != '\n' && c != '\r') =
      entry.toList := by
    refine List.filter_eq_self.2 fun c hc => ?_
    have hcode := (hall c hc).1
    simp only [Bool.and_eq_true, bne_iff_ne]
    refine ⟨⟨?_, ?_⟩, ?_⟩ <;> rintro rfl <;> exact absurd hcode (by decide)
  rw [hkept] at huser
  cases hentry : entry.toList with
  | nil =>
      rw [hentry] at huser
      cases huser
      exact absurd rfl (hne rfl)
  | cons c cs =>
      rw [hentry] at huser hall
      have hc : (c == '/' || c == '\\') = false := by
        have hends := (hall c List.mem_cons_self).2.1
        simp only [endsAuthority, Bool.or_eq_false_iff] at hends
        simpa [hends.1.1.1] using hends.2
      have hdropped : (['/', '/'] ++ c :: cs ++ ['/']).dropWhile (fun c => c == '/' || c == '\\') =
          c :: cs ++ ['/'] := by
        simp [hc]
      rw [hdropped] at huser
      have hwhole := userinfo_of_isHostChar hall
      rw [show kind "http" = .special from rfl, hwhole] at huser
      cases huser
      rfl

theorem hostText_append_slash {k : Kind} (hs : ∀ c ∈ s, endsAuthority k c = false ∧ c ≠ ':')
    (bracketed : Bool) : hostText k bracketed (s ++ ['/']) = s := by
  induction s generalizing bracketed with
  | nil => rfl
  | cons c s ih =>
      obtain ⟨hends, hcolon⟩ := hs c List.mem_cons_self
      rw [List.cons_append, hostText, if_neg (by simp [hends, hcolon]),
        ih (fun d hd => hs d (List.mem_cons_of_mem _ hd))]

theorem hostText_bracketed {k : Kind} (hs : ∀ c ∈ s, endsAuthority k c = false ∧ c ≠ ']')
    (rest : List Char) : hostText k true (s ++ rest) = s ++ hostText k true rest := by
  induction s with
  | nil => rfl
  | cons c s ih =>
      obtain ⟨hends, hbracket⟩ := hs c List.mem_cons_self
      have hstill : (c == '[' || (true && c != ']')) = true := by simp [hbracket]
      rw [List.cons_append, hostText, if_neg (by simp [hends]), hstill,
        ih fun d hd => hs d (List.mem_cons_of_mem _ hd)]
      rfl

theorem exists_hostText_slash (k : Kind) (bracketed : Bool) (s : List Char) :
    ∃ rest, s = hostText k bracketed (s ++ ['/']) ++ rest := by
  induction s generalizing bracketed with
  | nil => exact ⟨[], rfl⟩
  | cons c s ih =>
      rw [List.cons_append, hostText]
      split
      · exact ⟨c :: s, rfl⟩
      · obtain ⟨rest, hrest⟩ := ih (c == '[' || (bracketed && c != ']'))
        exact ⟨rest, congrArg (c :: ·) hrest⟩

theorem isHostChar_of_isNameChar {c : Char} (h : Domain.IsNameChar c) :
    IsHostChar c ∧ c ≠ ':' := by
  have hall : ∀ n < 0x80, Domain.IsNameChar (Char.ofNat n) →
      IsHostChar (Char.ofNat n) ∧ Char.ofNat n ≠ ':' := by decide
  exact Utf8.forall_ascii (P := fun c => Domain.IsNameChar c → IsHostChar c ∧ c ≠ ':') hall h.1 h

/-- A name is what is read in its place. -/
theorem parse_of_isNameChar {entry : String} (h : parse ("http://" ++ entry ++ "/") = .ok u)
    (hhost : u.host = some host) (hall : ∀ c ∈ entry.toList, Domain.IsNameChar c) :
    Host.parse entry.toList = .ok host := by
  obtain ⟨text, hread, htext⟩ := host_of_parse_http h hhost
  rw [htext fun c hc => (isHostChar_of_isNameChar (hall c hc)).1,
    hostText_append_slash fun c hc =>
      let ⟨hchar, hcolon⟩ := isHostChar_of_isNameChar (hall c hc)
      ⟨hchar.2.1, hcolon⟩] at hread
  exact hread

end Depot.Url
