import Depot.Repository.Access
import Mathlib.Data.List.DropRight

/-!
Where repositories are. A URI that begins like that of a directory is never read as that of a
server, and the canonical URI of a server does not end with a slash, so everything that is asked of
a server lies behind its canonical URI and one slash.
-/

namespace Depot

open Text

theorem Text.dropEndWhile_append_cons {p : Char → Bool} {c : Char} (hc : p c = false)
    (xs ys : List Char) : dropEndWhile p (xs ++ c :: ys) = xs ++ c :: dropEndWhile p ys := by
  unfold dropEndWhile
  rw [List.reverse_append, List.reverse_cons, List.append_assoc, List.dropWhile_append]
  split
  · rename_i hempty
    rw [List.isEmpty_iff] at hempty
    simp [hc, hempty]
  · simp

theorem Text.getLast?_dropEndWhile {p : Char → Bool} {c : Char} {s : List Char}
    (h : (dropEndWhile p s).getLast? = some c) : p c = false := by
  obtain ⟨hne, rfl⟩ := List.mem_getLast?_eq_getLast h
  simpa using! List.rdropWhile_last_not p s hne

theorem Text.splitAll_ne_nil (sep : Char) (s : List Char) : splitAll sep s ≠ [] := by
  cases s with
  | nil => simp [splitAll]
  | cons c s =>
      rw [splitAll]
      split
      · simp
      · split <;> simp

namespace Url

theorem isLetter_of_isBlank {c : Char} (h : isBlank c) : Path.isLetter c = false := by
  by_contra hletter
  simp only [isBlank, Path.isLetter, Bool.not_eq_false, Bool.or_eq_true, Bool.and_eq_true,
    decide_eq_true_eq, beq_iff_eq, Char.le_def, UInt32.le_iff_toNat_le, Char.toNat] at h hletter
  simp only [Char.reduceVal, UInt32.reduceToNat] at hletter
  omega

theorem scheme?_eq_none {c : Char} (hc : Path.isLetter c = false) (rest : List Char) :
    scheme? (c :: rest) = none := by
  unfold scheme?
  cases hsplit : splitFirst ':' (c :: rest) with
  | none => rfl
  | some p =>
      obtain ⟨before, after⟩ := p
      obtain ⟨happend, -⟩ := splitFirst_eq_some hsplit
      cases before with
      | nil => rfl
      | cons d before =>
          rw [List.cons_append, List.cons.injEq] at happend
          rw [← happend.1]
          dsimp only [Option.bind_eq_bind, Option.bind_some]
          rw [hc]
          rfl

theorem clean_cons {c : Char} (hc : ¬c.toNat ≤ 0x20) (rest : List Char) :
    ∃ rest', clean (c :: rest) = c :: rest' := by
  have hkept : c ≠ '\t' ∧ c ≠ '\n' ∧ c ≠ '\r' := by
    refine ⟨?_, ?_, ?_⟩ <;> rintro rfl <;> exact hc (by decide)
  unfold clean
  dsimp only
  rw [List.dropWhile_cons_of_neg (by simpa using hc)]
  have hend := dropEndWhile_append_cons (p := fun c => c.toNat ≤ 0x20) (decide_eq_false hc) [] rest
  rw [List.nil_append, List.nil_append] at hend
  rw [hend, List.filter_cons_of_pos (by simp [hkept])]
  exact ⟨_, rfl⟩

theorem scheme?_file (rest : List Char) :
    scheme? ("file".toList ++ ':' :: rest) = some ("file", rest) := by
  have hsplit : splitFirst ':' ("file".toList ++ ':' :: rest) = some ("file".toList, rest) := rfl
  rw [scheme?, hsplit]
  rfl

/-- White space in front of a scheme is dropped, or it is the beginning of no scheme at all. -/
theorem scheme?_clean {blanks rest : List Char} (hblanks : ∀ c ∈ blanks, isBlank c)
    {scheme : String} {after : List Char}
    (h : scheme? (clean (blanks ++ ("file:".toList ++ rest))) = some (scheme, after)) :
    scheme = "file" := by
  induction blanks with
  | nil =>
      have hstart : ("file:".toList ++ rest).dropWhile (fun c => c.toNat ≤ 0x20) =
          "file".toList ++ ':' :: rest := by simp
      have hkept : "file".toList.filter (fun c => c != '\t' && c != '\n' && c != '\r') =
          "file".toList := by decide
      rw [List.nil_append, clean, hstart, dropEndWhile_append_cons (by decide), List.filter_append,
        List.filter_cons_of_pos (by decide), hkept, scheme?_file] at h
      cases h
      rfl
  | cons b blanks ih =>
      have hb := hblanks b List.mem_cons_self
      by_cases houter : b.toNat ≤ 0x20
      · refine ih (fun c hc => hblanks c (List.mem_cons_of_mem _ hc)) ?_
        simpa [clean, houter] using h
      · obtain ⟨rest', hclean⟩ := clean_cons houter (blanks ++ ("file:".toList ++ rest))
        rw [List.cons_append, hclean, scheme?_eq_none (isLetter_of_isBlank hb)] at h
        cases h

theorem scheme_of_parseFile {s : List Char} {u : Url} (h : parseFile s = .ok u) :
    u.scheme = "file" := by
  unfold parseFile at h
  dsimp only at h
  repeat' split at h
  all_goals cases h
  all_goals rfl

theorem scheme_of_parse {blanks rest : List Char} (hblanks : ∀ c ∈ blanks, isBlank c) {s : String}
    (hs : s.toList = blanks ++ ("file:".toList ++ rest)) {u : Url} (h : parse s = .ok u) :
    u.scheme = "file" := by
  unfold parse at h
  rw [hs] at h
  split at h
  · cases h
  · rename_i scheme after hscheme
    rw [scheme?_clean hblanks hscheme] at h
    exact scheme_of_parseFile h

theorem filePath?_ne_nil {u : Url} {path : Bytes} (h : u.filePath? = some path) : path ≠ [] := by
  have hsegments (s : List Char) :
      (splitAll '/' s).flatMap (fun segment => 0x2F :: Percent.decode segment) ≠ [] := by
    cases hs : splitAll '/' s with
    | nil => exact absurd hs (splitAll_ne_nil '/' s)
    | cons part parts => simp
  unfold filePath? at h
  split at h
  · split at h
    · cases h
    · dsimp only at h
      split at h
      · split at h
        · cases h
          simp
        · cases h
          exact hsegments _
      · cases h
        exact hsegments _
  · cases h

end Url

namespace Repository

variable {r : Repository} {u : Url}

@[simp] theorem repository_access (r : Repository) : r.access.repository = r := by
  unfold access
  split <;> rfl

theorem localPath?_ne_nil {root : Bytes} (h : r.localPath? = some root) : root ≠ [] := by
  unfold localPath? at h
  split at h
  · obtain ⟨u, -, hu⟩ := Option.bind_eq_some_iff.1 h
    exact Url.filePath?_ne_nil hu
  · cases h

theorem localPath?_of_place {root : Bytes} (h : r.access.place = .directory root) :
    r.localPath? = some root := by
  unfold access at h
  split at h
  · rename_i hlocal
    cases h
    exact hlocal
  · cases h

theorem localPath?_congr {r' : Repository} (h : r.uri = r'.uri) : r.localPath? = r'.localPath? := by
  unfold localPath? isLocal
  rw [h]

theorem place_access {root : Bytes} (h : r.localPath? = some root) :
    r.access.place = .directory root := by
  simp only [access, h]

theorem place_access_congr {r' : Repository} (h : r.uri = r'.uri) :
    r.access.place = r'.access.place := by
  unfold access
  rw [localPath?_congr h, h]
  split <;> rfl

theorem scheme_of_isLocal (h : r.isLocal) (hu : Url.parse r.uri = .ok u) : u.scheme = "file" := by
  obtain ⟨rest, hrest⟩ := Option.isSome_iff_exists.1 h
  rw [afterLead?_eq_some_iff, trimStart, String.toList_ofList] at hrest
  have hs : r.uri.toList = r.uri.toList.takeWhile isBlank ++ ("file:".toList ++ rest) := by
    rw [← hrest, List.takeWhile_append_dropWhile]
  exact Url.scheme_of_parse (fun c hc => List.mem_takeWhile_imp hc) hs hu

theorem uri_canonical (r : Repository) : r.canonical.uri = r.canonicalUri := rfl

theorem canonicalUri_congr {r r' : Repository} (h : r.uri = r'.uri) :
    r.canonicalUri = r'.canonicalUri := by
  rw [canonicalUri, canonicalUri, isLocal, isLocal, h]

theorem toList_canonicalUri (h : r.isLocal) :
    ∃ rest, r.canonicalUri.toList = "file:".toList ++ rest := by
  obtain ⟨rest, hrest⟩ := Option.isSome_iff_exists.1 h
  rw [afterLead?_eq_some_iff] at hrest
  have hend := dropEndWhile_append_cons (p := isBlank) (c := ':') (by decide) "file".toList rest
  refine ⟨dropEndWhile isBlank rest, ?_⟩
  simp only [canonicalUri, h, if_true, trim, trimEnd, hrest, String.toList_ofList]
  exact hend

/-- Nothing that is trimmed off makes a directory of a server. -/
theorem isLocal_canonical (h : r.isLocal = false) : r.canonical.isLocal = false := by
  refine Bool.eq_false_iff.2 fun hcanonical => Bool.eq_false_iff.1 h ?_
  obtain ⟨rest, hrest⟩ := Option.isSome_iff_exists.1 hcanonical
  have hprefix : r.canonicalUri.toList <+: r.uri.toList.dropWhile isBlank := by
    simp only [canonicalUri, h, Bool.false_eq_true, if_false, trim, trimEnd, trimStart,
      String.toList_ofList]
    exact (List.rdropWhile_prefix _ _).trans (List.rdropWhile_prefix _ _)
  obtain ⟨tail, htail⟩ := hprefix
  rw [afterLead?_eq_some_iff, trimStart, String.toList_ofList, uri_canonical] at hrest
  refine Option.isSome_iff_exists.2 ⟨rest ++ tail, afterLead?_eq_some_iff.2 ?_⟩
  rw [trimStart, String.toList_ofList, ← List.dropWhile_idempotent, ← htail, List.dropWhile_append,
    hrest]
  rfl

theorem getLast?_canonicalUri (h : r.isLocal = false) :
    r.canonicalUri.toList.getLast? ≠ some '/' := by
  intro hlast
  simp only [canonicalUri, h, Bool.false_eq_true, if_false, String.toList_ofList] at hlast
  simpa using getLast?_dropEndWhile hlast

theorem place_access_canonical_of_isLocal (h : r.isLocal = false) :
    r.canonical.access.place = .remote (r.canonical.uri ++ "/") := by
  have hend : (r.canonical.uri.toList.getLast? == some '/') = false :=
    beq_eq_false_iff_ne.2 (getLast?_canonicalUri h)
  simp [access, localPath?, isLocal_canonical h, hend]

/-- A repository on a server is read from behind its canonical URI and one slash. -/
theorem place_access_canonical (hu : Url.parse r.canonical.uri = .ok u)
    (hscheme : u.scheme ≠ "file") :
    r.canonical.access.place = .remote (r.canonical.uri ++ "/") := by
  refine place_access_canonical_of_isLocal (Bool.eq_false_iff.2 fun h => hscheme ?_)
  obtain ⟨rest, hrest⟩ := toList_canonicalUri h
  rw [← uri_canonical] at hrest
  exact Url.scheme_of_parse (List.forall_mem_nil _) hrest hu

end Repository

end Depot
