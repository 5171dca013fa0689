import Depot.Layout.Reading
import Depot.Proofs.AcceptingOnly
import Depot.Proofs.Results

/-!
Where requests for files go. The path of a file is put behind the URI of its repository as it is,
and the whole is read as a URI again: a number sign in the path ends what is sent, and a question
mark begins a query. All other characters reach the server, or nothing is sent at all.
-/

namespace Depot

open Http Repository Run Text

theorem Text.takeWhile_append_cons {p : Char → Bool} {c : Char} (hc : p c = false)
    (xs ys : List Char) : (xs ++ c :: ys).takeWhile p = xs.takeWhile p := by
  induction xs with
  | nil => simp [hc]
  | cons x xs ih =>
      rw [List.cons_append, List.takeWhile_cons, List.takeWhile_cons, ih]

theorem Text.drop_takeWhile_append (p : Char → Bool) (xs ys : List Char) :
    (xs ++ ys).drop (xs.takeWhile p).length = xs.drop (xs.takeWhile p).length ++ ys :=
  List.drop_append_of_le_length (List.takeWhile_prefix p).length_le

theorem Text.afterLead?_append_of_le {lead s : List Char} (h : lead.length ≤ s.length)
    (rest : List Char) : afterLead? lead (s ++ rest) = (afterLead? lead s).map (· ++ rest) := by
  induction lead generalizing s with
  | nil => rfl
  | cons c lead ih =>
      cases s with
      | nil => simp at h
      | cons d s =>
          rw [List.cons_append, afterLead?_cons_cons, afterLead?_cons_cons,
            ih (Nat.le_of_succ_le_succ h)]
          split <;> rfl

namespace Http.Target

variable {front s p q : List Char} {t t' : Target}

/-- What is left of a text without its fragment. -/
def beforeFragment (s : List Char) : List Char := s.takeWhile (· != '#')

theorem beforeFragment_eq_self_iff : beforeFragment s = s ↔ '#' ∉ s := by
  rw [beforeFragment, List.takeWhile_eq_self_iff]
  constructor
  · intro h hmem
    simpa using h '#' hmem
  · intro h c hc
    rw [bne_iff_ne]
    rintro rfl
    exact h hc

theorem beforeFragment_append (h : '#' ∉ front) (s : List Char) :
    beforeFragment (front ++ s) = front ++ beforeFragment s := by
  refine List.takeWhile_append_of_pos fun c hc => bne_iff_ne.2 ?_
  rintro rfl
  exact h hc

theorem pathAndQuery_query (s : List Char) : pathAndQuery ('?' :: s) =
    if (beforeFragment s).all isQueryChar then .ok ('?' :: beforeFragment s)
    else .error .character := rfl

theorem pathAndQuery_fragment (s : List Char) : pathAndQuery ('#' :: s) = .ok [] := rfl

theorem pathAndQuery_cons {c : Char} (hquery : c ≠ '?') (hfragment : c ≠ '#') (s : List Char) :
    pathAndQuery (c :: s) =
      if isPathChar c then (pathAndQuery s).map (c :: ·) else .error .character := by
  have hpath : (c :: s).takeWhile (fun c => c != '?' && c != '#') =
      c :: s.takeWhile fun c => c != '?' && c != '#' := by simp [hquery, hfragment]
  unfold pathAndQuery
  dsimp only
  rw [hpath, List.all_cons, List.length_cons, List.drop_succ_cons]
  cases isPathChar c with
  | false => rfl
  | true =>
      rw [Bool.true_and, if_pos rfl]
      split
      · rfl
      · split
        · split <;> rfl
        · rfl

/-- Nothing is repaired: what is sent is what there was. -/
theorem pathAndQuery_eq_ok (h : pathAndQuery s = .ok q) : q = beforeFragment s := by
  induction s generalizing q with
  | nil =>
      cases h
      rfl
  | cons c s ih =>
      by_cases hquery : c = '?'
      · rw [hquery, pathAndQuery_query] at h
        split at h
        · cases h
          rw [hquery]
          rfl
        · cases h
      by_cases hfragment : c = '#'
      · rw [hfragment, pathAndQuery_fragment] at h
        cases h
        rw [hfragment]
        rfl
      rw [pathAndQuery_cons hquery hfragment] at h
      split at h
      · cases hrest : pathAndQuery s with
        | error e =>
            rw [hrest] at h
            cases h
        | ok rest =>
            rw [hrest] at h
            cases h
            simp [ih hrest, beforeFragment, hfragment]
      · cases h

/-- A path is read on its own, whatever follows it. -/
theorem pathAndQuery_append (hquery : '?' ∉ front) (hfragment : '#' ∉ front) (s : List Char) :
    pathAndQuery (front ++ s) =
      if front.all isPathChar then (pathAndQuery s).map (front ++ ·) else .error .character := by
  induction front with
  | nil => cases h : pathAndQuery s <;> simp [h, Except.map]
  | cons c front ih =>
      rw [List.mem_cons, not_or] at hquery hfragment
      rw [List.cons_append, pathAndQuery_cons (Ne.symm hquery.1) (Ne.symm hfragment.1),
        ih hquery.2 hfragment.2, List.all_cons]
      cases isPathChar c with
      | false => rfl
      | true =>
          rw [Bool.true_and, if_pos rfl]
          split
          · cases pathAndQuery s <;> rfl
          · rfl

theorem readAuthority_append (s p : List Char) :
    readAuthority (s ++ '/' :: p) =
      (readAuthority s).map fun (host, rest) => (host, rest ++ '/' :: p) := by
  unfold readAuthority
  dsimp only
  rw [takeWhile_append_cons (by decide), drop_takeWhile_append]
  split
  · rfl
  · split <;> rfl

theorem mem_of_readAuthority {host rest : List Char} (h : readAuthority s = .ok (host, rest))
    {c : Char} (hc : c ∈ rest) : c ∈ s := by
  unfold readAuthority at h
  dsimp only at h
  split at h
  · cases h
  · split at h
    · cases h
      exact List.mem_of_mem_drop hc
    · cases h

/-- A slash behind a URI never becomes part of its scheme, unless it is the first of two that follow
the colon. -/
theorem scheme?_append (hend : s.getLast? ≠ some '/') (p : List Char) :
    scheme? (s ++ '/' :: p) =
        (scheme? s).map (Option.map fun (scheme, rest) => (scheme, rest ++ '/' :: p)) ∨
      scheme? s = .ok none ∧ s.getLast? = some ':' ∧ p.head? = some '/' := by
  have hs := List.prefix_iff_eq_append.1 (List.takeWhile_prefix (l := s) isSchemeChar)
  unfold scheme?
  dsimp only
  rw [takeWhile_append_cons (by decide), drop_takeWhile_append]
  generalize s.takeWhile isSchemeChar = scheme at hs ⊢
  generalize s.drop scheme.length = rest at hs ⊢
  subst hs
  have hlead : "://".toList = [':', '/', '/'] := rfl
  rw [hlead]
  rcases rest with _ | ⟨c, _ | ⟨d, _ | ⟨e, rest⟩⟩⟩
  · exact .inl rfl
  · by_cases hc : c = ':'
    · subst hc
      cases p with
      | nil => exact .inl rfl
      | cons d p =>
          by_cases hd : d = '/'
          · subst hd
            exact .inr ⟨rfl, by simp, rfl⟩
          · left
            simp [afterLead?_cons_cons, Ne.symm hd, Except.map]
    · left
      simp [afterLead?_cons_cons, Ne.symm hc, Except.map]
  · left
    by_cases hd : d = '/'
    · subst hd
      simp at hend
    · simp [afterLead?_cons_cons, Ne.symm hd, Except.map]
  · left
    rw [afterLead?_append_of_le (by simp)]
    cases afterLead? [':', '/', '/'] (c :: d :: e :: rest) with
    | none => rfl
    | some rest =>
        dsimp only [Option.map_some]
        split
        · rfl
        · split <;> rfl

/-- A scheme ends with the first slash or before it. -/
theorem scheme?_eq_ok {scheme rest : List Char} (h : scheme? s = .ok (some (scheme, rest))) :
    ∃ name, s = name ++ ':' :: '/' :: '/' :: rest ∧ '/' ∉ name := by
  have hs := List.prefix_iff_eq_append.1 (List.takeWhile_prefix (l := s) isSchemeChar)
  unfold scheme? at h
  dsimp only at h
  split at h
  · cases h
  · rename_i rest' hlead
    rw [afterLead?_eq_some_iff.1 hlead] at hs
    refine ⟨s.takeWhile isSchemeChar, ?_, fun hslash => ?_⟩
    · split at h
      · cases h
        exact hs.symm
      · split at h
        · cases h
        · cases h
          exact hs.symm
    · exact absurd (List.mem_takeWhile_imp hslash) (by decide)

theorem exists_cons_of_scheme? {scheme rest : List Char}
    (h : scheme? s = .ok (some (scheme, rest))) : ∃ c d chars, s = c :: d :: chars ∧ c ≠ '/' := by
  obtain ⟨name, hname, hslash⟩ := scheme?_eq_ok h
  rcases name with _ | ⟨c, _ | ⟨d, name⟩⟩
  · exact ⟨':', '/', '/' :: rest, hname, by decide⟩
  · exact ⟨c, ':', _, hname, fun h => hslash (h ▸ List.mem_cons_self)⟩
  · exact ⟨c, d, _, hname, fun h => hslash (h ▸ List.mem_cons_self)⟩

/-- What is sent has a scheme and an authority. -/
theorem parse_eq_ok_iff {uri : String} : parse uri = .ok t ↔ uri.utf8ByteSize ≤ 65534 ∧
    ∃ scheme rest host rest' path, scheme? uri.toList = .ok (some (scheme, rest)) ∧
      readAuthority rest = .ok (host, rest') ∧ host ≠ [] ∧ pathAndQuery rest' = .ok path ∧
      t = ⟨String.ofList scheme, host, path⟩ := by
  unfold parse
  dsimp only
  constructor
  · intro h
    split at h
    · cases h
    · rename_i hsize
      refine ⟨Nat.le_of_not_lt hsize, ?_⟩
      split at h
      · cases h
      · cases h
      · cases h
      · split at h <;> cases h
      · obtain ⟨path, -, h⟩ := bind_eq_ok.1 h
        cases h
      · obtain ⟨found, hscheme, h⟩ := bind_eq_ok.1 h
        cases found with
        | none =>
            obtain ⟨⟨host, rest⟩, -, hrest⟩ := bind_eq_ok.1 h
            cases rest <;> cases hrest
        | some found =>
            obtain ⟨⟨host, rest⟩, hhost, h⟩ := bind_eq_ok.1 h
            dsimp only at h
            split at h
            · cases h
            · rename_i hne
              obtain ⟨path, hpath, h⟩ := bind_eq_ok.1 h
              cases h
              exact ⟨_, _, host, rest, path, hscheme, hhost, by simpa using hne, hpath, rfl⟩
  · rintro ⟨hsize, scheme, rest, host, rest', path, hscheme, hhost, hne, hpath, rfl⟩
    obtain ⟨c, d, chars, hchars, hc⟩ := exists_cons_of_scheme? hscheme
    rw [if_neg (Nat.not_lt.2 hsize)]
    -- What is shorter, or begins with a slash, has no scheme.
    split
    · rename_i hshort
      cases hchars.symm.trans hshort
    · rename_i hshort
      cases hchars.symm.trans hshort
    · rename_i hshort
      cases hchars.symm.trans hshort
    · rename_i hshort
      cases hchars.symm.trans hshort
    · rename_i hslash
      cases hchars.symm.trans hslash
      exact absurd rfl hc
    · rw [hscheme]
      simp [bind, Except.bind, hhost, hne, hpath]

theorem mem_of_parse {uri : String} (h : parse uri = .ok t) {c : Char} (hc : c ∈ t.path) :
    c ∈ uri.toList := by
  obtain ⟨-, scheme, rest, host, rest', path, hscheme, hhost, -, hpath, rfl⟩ := parse_eq_ok_iff.1 h
  obtain ⟨name, hname, -⟩ := scheme?_eq_ok hscheme
  have hpath' : c ∈ beforeFragment rest' := pathAndQuery_eq_ok hpath ▸ hc
  have hrest := mem_of_readAuthority hhost ((List.takeWhile_prefix _).mem hpath')
  simp [hname, hrest]

/-- A path behind a URI without query and fragment is sent as it is, up to a number sign. Only where
the URI ends with the colon of its scheme, the path may be what begins with an authority. -/
theorem parse_append {uri path : String} (hquery : '?' ∉ uri.toList) (hfragment : '#' ∉ uri.toList)
    (hend : uri.toList.getLast? ≠ some '/') (h : parse (uri ++ "/" ++ path) = .ok t') :
    (∃ t, parse uri = .ok t ∧
        t' = { t with path := t.path ++ '/' :: beforeFragment path.toList }) ∨
      scheme? uri.toList = .ok none ∧ uri.toList.getLast? = some ':' ∧
        path.toList.head? = some '/' := by
  obtain ⟨hsize, scheme, rest, host, rest', sent, hscheme, hhost, hne, hsent, rfl⟩ :=
    parse_eq_ok_iff.1 h
  have huri : (uri ++ "/" ++ path).toList = uri.toList ++ '/' :: path.toList := by simp
  rw [huri] at hscheme
  rcases scheme?_append hend path.toList with happend | hcolon
  · left
    rw [happend, map_eq_ok] at hscheme
    obtain ⟨found, huri, hfound⟩ := hscheme
    obtain ⟨⟨scheme', front⟩, rfl, hfront⟩ := Option.map_eq_some_iff.1 hfound
    cases hfront
    rw [readAuthority_append, map_eq_ok] at hhost
    obtain ⟨⟨host', front'⟩, hauthority, hfront⟩ := hhost
    cases hfront
    have hmem {c : Char} (hc : c ∈ front') : c ∈ uri.toList := by
      obtain ⟨name, hname, -⟩ := scheme?_eq_ok huri
      simp [hname, mem_of_readAuthority hauthority hc]
    have hquery' : '?' ∉ front' := fun h => hquery (hmem h)
    have hfragment' : '#' ∉ front' := fun h => hfragment (hmem h)
    have hall : front'.all isPathChar := by
      rw [pathAndQuery_append hquery' hfragment'] at hsent
      split at hsent
      · assumption
      · cases hsent
    refine ⟨⟨String.ofList scheme, host, front'⟩,
      parse_eq_ok_iff.2 ⟨?_, scheme, front, host, front', front', huri, hauthority, hne, ?_, rfl⟩,
      ?_⟩
    · simp only [String.utf8ByteSize_append] at hsize
      omega
    · rw [← List.append_nil front', pathAndQuery_append hquery' hfragment', if_pos hall]
      rfl
    · rw [pathAndQuery_eq_ok hsent, beforeFragment_append hfragment']
      rfl
  · exact .inr hcolon

/-- The file with this path below a target, as far as it can be asked for. -/
def file (t : Target) (path : String) : String :=
  String.ofList (t.path ++ '/' :: beforeFragment path.toList)

theorem file_eq_iff {path : String} (hquery : '?' ∉ t.path) :
    (t.file path = String.ofList t.path ++ "/" ++ path ∧ '?' ∉ (t.file path).toList) ↔
      '#' ∉ path.toList ∧ '?' ∉ path.toList := by
  have hwhole : t.file path = String.ofList t.path ++ "/" ++ path ↔ '#' ∉ path.toList := by
    rw [← beforeFragment_eq_self_iff, ← String.toList_inj]
    simp [file]
  rw [hwhole]
  refine and_congr_right fun h => not_congr ?_
  rw [hwhole.2 h]
  simp [hquery]

theorem file_inj {path path' : String} :
    t.file path = t.file path' ↔ beforeFragment path.toList = beforeFragment path'.toList := by
  simp [file, String.ofList_inj]

theorem requestPath_file {path : String} (hquery : '?' ∉ t.path)
    (h : t' = { t with path := t.path ++ '/' :: beforeFragment path.toList }) :
    t'.requestPath = t.file path := by
  subst h
  unfold requestPath file
  split
  · simp_all
  · rename_i rest hpath
    cases hfront : t.path with
    | nil => simp_all
    | cons c front => simp_all
  · rfl

end Http.Target

/-- Bounds on getting the file with this path below a target. -/
def Scope.below (t : Target) (path : String) : Scope where
  sends sent := sent.method = "GET" ∧ sent.scheme = t.scheme ∧ sent.server = t.server ∧
    sent.path = t.file path
  opens _ := False

namespace Http.Request

theorem eq_of_prepare {settings : Settings} {request : Request} {sent : Sent}
    (h : request.prepare settings = .ok sent) : ∃ t, Target.parse request.uri = .ok t ∧
      sent.method = request.method ∧ sent.scheme = t.scheme ∧ sent.server = t.server ∧
        sent.path = t.requestPath := by
  unfold prepare at h
  split at h
  · cases h
  · rename_i t ht
    dsimp only at h
    split at h
    · cases h
      exact ⟨t, ht, rfl, rfl, rfl, rfl⟩
    · cases h

end Http.Request

namespace Repository

theorem Access.within_fetch {scope : Scope} {settings : Settings} {a : Access} {path : String}
    (h : scope.Covers settings a path) (s : Session) :
    Session.Within scope s (a.fetch settings path s).2 :=
  (fetch_keeps (scope.spares_within s).toSparesReading h s (.refl scope s)).1

variable {r : Repository}

-- What a canonical URI is in detail is of no interest from here on.
attribute [local irreducible] canonical

theorem covers_below (settings : Settings) (hremote : r.isLocal = false)
    (hquery : '?' ∉ r.canonicalUri.toList) (hfragment : '#' ∉ r.canonicalUri.toList)
    {t : Target} (ht : Target.parse r.canonicalUri = .ok t) (path : String) :
    (Scope.below t path).Covers settings r.canonical.access path := by
  have hplace := place_access_canonical_of_isLocal hremote
  rw [Scope.covers_remote hplace]
  intro request hmethod huri sent hsent
  obtain ⟨t', ht', hmethod', hscheme, hserver, hpath⟩ := Request.eq_of_prepare hsent
  rw [huri, uri_canonical] at ht'
  rcases Target.parse_append hquery hfragment (getLast?_canonicalUri hremote) ht' with
    ⟨t'', ht'', htarget⟩ | ⟨hnone, -, -⟩
  · rw [ht] at ht''
    cases ht''
    have hquery' : '?' ∉ t.path := fun h => hquery (Target.mem_of_parse ht h)
    refine ⟨hmethod'.trans hmethod, ?_, ?_, ?_⟩
    · rw [hscheme, htarget]
    · rw [hserver, htarget]
      rfl
    · rw [hpath, Target.requestPath_file hquery' htarget]
  · obtain ⟨-, scheme, rest, -, -, -, hscheme, -⟩ := Target.parse_eq_ok_iff.1 ht
    rw [hnone] at hscheme
    cases hscheme

/-- Nothing can be sent to a repository whose URI is no target, unless its path takes the place of
the authority that the URI lacks. -/
theorem covers_nothing (settings : Settings) (hremote : r.isLocal = false)
    (hquery : '?' ∉ r.canonicalUri.toList) (hfragment : '#' ∉ r.canonicalUri.toList)
    {e : Invalid} (he : Target.parse r.canonicalUri = .error e) {path : String}
    (hpath : ¬(r.canonicalUri.toList.getLast? = some ':' ∧ path.toList.head? = some '/')) :
    Scope.Covers ⟨fun _ => False, fun _ => False⟩ settings r.canonical.access path := by
  have hplace := place_access_canonical_of_isLocal hremote
  rw [Scope.covers_remote hplace]
  intro request hmethod huri sent hsent
  obtain ⟨t', ht', -⟩ := Request.eq_of_prepare hsent
  rw [huri, uri_canonical] at ht'
  rcases Target.parse_append hquery hfragment (getLast?_canonicalUri hremote) ht' with
    ⟨t, ht, -⟩ | ⟨-, hcolon⟩
  · rw [he] at ht
    cases ht
  · exact hpath hcolon

/-- What a remote repository is asked for in order to get an artifact's file: the file's path behind
that of the repository, up to a number sign. It is the whole path, without a query, if and only if
there is neither a number sign nor a question mark in it; and two artifacts are asked for in the
same way if and only if their paths differ at most behind a number sign. -/
theorem fetch_target (settings : Settings) (hremote : r.isLocal = false)
    (hquery : '?' ∉ r.canonicalUri.toList) (hfragment : '#' ∉ r.canonicalUri.toList)
    (artifact : Artifact) (fileVersion : String) (s : Session) :
    let path := Layout.path artifact fileVersion
    let after := (r.canonical.access.fetch settings path s).2
    (∀ t, Target.parse r.canonicalUri = .ok t →
      Session.Within (Scope.below t path) s after ∧
      ((t.file path = String.ofList t.path ++ "/" ++ path ∧ '?' ∉ (t.file path).toList) ↔
        '#' ∉ path.toList ∧ '?' ∉ path.toList) ∧
      ∀ artifact' fileVersion', t.file path = t.file (Layout.path artifact' fileVersion') ↔
        Target.beforeFragment path.toList =
          Target.beforeFragment (Layout.path artifact' fileVersion').toList) ∧
    ∀ e, Target.parse r.canonicalUri = .error e →
      ¬(r.canonicalUri.toList.getLast? = some ':' ∧ path.toList.head? = some '/') →
        after.contacts = s.contacts := by
  intro path after
  refine ⟨fun t ht => ⟨?_, ?_, ?_⟩, fun e he hpath => ?_⟩
  · exact Access.within_fetch (covers_below settings hremote hquery hfragment ht path) s
  · exact Target.file_eq_iff fun h => hquery (Target.mem_of_parse ht h)
  · intro artifact' fileVersion'
    exact Target.file_inj
  · obtain ⟨more, hmore, hall⟩ := (Access.within_fetch
      (covers_nothing settings hremote hquery hfragment he hpath) s).contacts
    have hnone : more = [] := List.eq_nil_iff_forall_not_mem.2 fun contact hcontact => by
      obtain ⟨_, hfalse, _⟩ := hall contact hcontact
      exact hfalse
    rw [hmore, hnone, List.append_nil]

/-- The main file of an artifact is asked for in the place of another file. -/
theorem fetch_target_of_number_sign :
    let r : Repository := { id := "r", uri := "http://h/m" }
    let t : Target := ⟨"http", "h".toList, "/m".toList⟩
    let artifact : Artifact := ⟨⟨"g", "a", .release "1.0"⟩, none, "jar#x"⟩
    let path := Layout.path artifact "1.0"
    Session.Within (Scope.below t path) {} (r.canonical.access.fetch {} path {}).2 ∧
      t.file path = t.file (Layout.path { artifact with extension := "jar" } "1.0") := by
  intro r t artifact path
  have hparse : Target.parse r.canonicalUri = .ok t := by decide +kernel
  obtain ⟨hwithin, -, hsame⟩ := (fetch_target {} (r := r) (by decide +kernel) (by decide +kernel)
    (by decide +kernel) artifact "1.0" {}).1 t hparse
  exact ⟨hwithin, (hsame { artifact with extension := "jar" } "1.0").2 (by decide +kernel)⟩

theorem not_forall_fetch_target :
    ¬∀ (settings : Settings) (r : Repository) (artifact : Artifact) (fileVersion : String)
      (s : Session) (t : Target) (sent : Sent),
      r.isLocal = false → '?' ∉ r.canonicalUri.toList → '#' ∉ r.canonicalUri.toList →
      (∃ path, Layout.readPath path = .ok artifact) → Target.parse r.canonicalUri = .ok t →
      let path := Layout.path artifact fileVersion
      .request sent ∈ (r.canonical.access.fetch settings path s).2.contacts →
        .request sent ∈ s.contacts ∨ sent.path = String.ofList t.path ++ "/" ++ path := by
  intro h
  let settings : Settings := {}
  let sent : Sent := {
    method := "GET", scheme := "http", server := "h", path := "/m/g/a/1.0/a-1.0.jar",
    headers := [⟨"user-agent", Utf8.encode settings.userAgent⟩] }
  let s : Session := { network := ⟨fun _ _ => .works, fun _ _ => {}⟩ }
  have hsent := h settings { id := "r", uri := "http://h/m" }
    ⟨⟨"g", "a", .release "1.0"⟩, none, "jar#x"⟩ "1.0" s ⟨"http", "h".toList, "/m".toList⟩ sent
    (by decide +kernel) (by decide +kernel) (by decide +kernel)
    ⟨"g/a/1.0/a-1.0.jar#x", by decide +kernel⟩ (by decide +kernel) (by decide +kernel)
  exact absurd hsent (by decide +kernel)

end Repository

end Depot
