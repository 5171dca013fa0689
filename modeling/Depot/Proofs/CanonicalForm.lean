import Depot.Proofs.Stripping

/-!
Canonical forms of repositories. White space around a URI is dropped first, and slashes at its end
only after that, so white space in front of those slashes comes to stand at the end. Apart from such
URIs canonical forms are normal forms: they are their own canonical form, and URIs that differ only
in what is dropped have the same one.
-/

namespace Depot

open Text

/-- The text with these slashes behind it, and white space around both. -/
def Text.IsDressed (core slashes s : List Char) : Prop :=
  ∃ before after, s = before ++ core ++ slashes ++ after ∧
    (∀ c ∈ before, isBlank c = true) ∧ (∀ c ∈ slashes, c = '/') ∧ ∀ c ∈ after, isBlank c = true

namespace Repository

variable {r : Repository} {core : List Char}

-- Canonical URIs are told by the lemmas below. Unfolding them means trimming text.
attribute [local irreducible] canonicalUri

/-- The URI of a server that ends in slashes, with white space between them and the text before. -/
def HasBlankBeforeSlashes (r : Repository) : Prop :=
  r.isLocal = false ∧ ∃ text blank slashes, IsDressed (text ++ [blank]) slashes r.uri.toList ∧
    (∃ c ∈ text, isBlank c = false) ∧ isBlank blank = true ∧ slashes ≠ []

theorem toList_canonicalUri_of_isLocal (h : r.isLocal = true) :
    r.canonicalUri.toList = strip isBlank r.uri.toList := by
  rw [canonicalUri, if_pos h, toList_trim]

theorem toList_canonicalUri_of_remote (h : r.isLocal = false) :
    r.canonicalUri.toList = dropEndWhile (· == '/') (strip isBlank r.uri.toList) := by
  rw [canonicalUri, if_neg (by simp [h]), String.toList_ofList, toList_trim]

theorem isLocal_canonical_eq (r : Repository) : r.canonical.isLocal = r.isLocal := by
  cases h : r.isLocal with
  | false => exact isLocal_canonical h
  | true =>
      obtain ⟨rest, hrest⟩ := toList_canonicalUri h
      refine Option.isSome_iff_exists.2 ⟨rest, afterLead?_eq_some_iff.2 ?_⟩
      rw [trimStart, String.toList_ofList, uri_canonical, hrest]
      rfl

theorem isBare_canonicalUri_of_isLocal (h : r.isLocal = true) :
    IsBare isBlank r.canonicalUri.toList := by
  rw [toList_canonicalUri_of_isLocal h]
  exact isBare_strip isBlank _

theorem canonical_eq_self_iff : r.canonical = r ↔ r.canonicalUri.toList = r.uri.toList := by
  rw [String.toList_inj]
  constructor
  · exact fun h => congrArg uri h
  · intro h
    cases r
    simp only [canonical, h]

theorem canonical_canonical_of_isLocal (h : r.isLocal = true) :
    r.canonical.canonical = r.canonical := by
  rw [canonical_eq_self_iff, toList_canonicalUri_of_isLocal (by rwa [isLocal_canonical_eq]),
    uri_canonical, strip_eq_self (isBare_canonicalUri_of_isLocal h)]

theorem localPath?_canonical (r : Repository) : r.canonical.localPath? = r.localPath? := by
  have hsame := isLocal_canonical_eq r
  cases h : r.isLocal with
  | false =>
      rw [h] at hsame
      rw [localPath?, localPath?, if_neg (by simp [hsame]), if_neg (by simp [h])]
  | true =>
      rw [h] at hsame
      have htrim : trim r.canonical.uri = trim r.uri := by
        rw [← String.toList_inj, toList_trim, toList_trim, uri_canonical,
          strip_eq_self (isBare_canonicalUri_of_isLocal h), toList_canonicalUri_of_isLocal h]
      rw [localPath?, localPath?, if_pos hsame, if_pos h, htrim]

/-- What the canonical URI of a server is: all of the URI that lies between white space in front of
it and slashes and white space behind it. White space at its own end is left only if there are
slashes. -/
structure IsCore (uri core : List Char) : Prop where
  head : ∀ c, core.head? = some c → isBlank c = false
  last : core.getLast? ≠ some '/'
  split : ∃ slashes, IsDressed core slashes uri ∧
    (slashes = [] → ∀ c, core.getLast? = some c → isBlank c = false)

theorem IsCore.of_isDressed {uri slashes : List Char} (hbare : IsBare isBlank core)
    (hlast : core.getLast? ≠ some '/') (h : IsDressed core slashes uri) : IsCore uri core :=
  ⟨hbare.head, hlast, slashes, h, fun _ => hbare.last⟩

/-- A text is a part of itself in one way only. -/
theorem IsCore.isBare (h : IsCore core core) : IsBare isBlank core := by
  obtain ⟨slashes, ⟨before, after, hsplit, -⟩, hend⟩ := h.split
  have hlength := congrArg List.length hsplit
  simp only [List.length_append] at hlength
  exact ⟨h.head, hend (List.length_eq_zero_iff.1 (by omega))⟩

theorem isCore_canonicalUri (h : r.isLocal = false) :
    IsCore r.uri.toList r.canonicalUri.toList where
  head c hc := by
    rw [toList_canonicalUri_of_remote h] at hc
    exact (isBare_strip isBlank _).head c (head?_dropEndWhile hc)
  last := getLast?_canonicalUri h
  split := by
    obtain ⟨before, after, huri, hbefore, hafter⟩ := exists_strip isBlank r.uri.toList
    obtain ⟨slashes, hstrip, hslashes⟩ :=
      exists_dropEndWhile (· == '/') (strip isBlank r.uri.toList)
    rw [← toList_canonicalUri_of_remote h] at hstrip
    refine ⟨slashes, ⟨before, after, ?_, hbefore, fun c hc => beq_iff_eq.1 (hslashes c hc), hafter⟩,
      ?_⟩
    · rw [huri, hstrip]
      simp only [List.append_assoc]
    · rintro rfl
      rw [List.append_nil] at hstrip
      rw [← hstrip]
      exact (isBare_strip isBlank _).last

theorem toList_canonicalUri_eq (h : r.isLocal = false) (hcore : IsCore r.uri.toList core) :
    r.canonicalUri.toList = core := by
  obtain ⟨slashes, ⟨before, after, huri, hbefore, hslashes, hafter⟩, hend⟩ := hcore.split
  have hbare : IsBare isBlank (core ++ slashes) := by
    constructor
    · intro c hc
      cases core with
      | nil =>
          rw [List.nil_append] at hc
          rw [hslashes c (List.mem_of_head? hc)]
          rfl
      | cons d core => exact hcore.head c hc
    · intro c hc
      rcases List.eq_nil_or_concat slashes with rfl | ⟨front, slash, rfl⟩
      · rw [List.append_nil] at hc
        exact hend rfl c hc
      · have hc' : slash = c := by simpa [← List.append_assoc] using hc
        rw [← hc', hslashes slash (by simp)]
        rfl
  rw [toList_canonicalUri_of_remote h, huri, List.append_assoc before,
    strip_of_isBare hbare hbefore hafter]
  refine dropEndWhile_append (fun c hc => ?_) fun c hc => by simp [hslashes c hc]
  rw [beq_eq_false_iff_ne]
  rintro rfl
  exact hcore.last hc

/-- White space in front of slashes is kept. -/
theorem toList_canonicalUri_of_blank {text slashes : List Char} {blank : Char}
    (h : r.isLocal = false) (hdressed : IsDressed (text ++ [blank]) slashes r.uri.toList)
    (htext : ∃ c ∈ text, isBlank c = false) (hblank : isBlank blank = true) (hne : slashes ≠ []) :
    r.canonicalUri.toList = text.dropWhile isBlank ++ [blank] := by
  obtain ⟨before, after, huri, hbefore, hslashes, hafter⟩ := hdressed
  obtain ⟨c, hc, hc'⟩ := htext
  have hrest : text.dropWhile isBlank ≠ [] := fun hnil =>
    Bool.false_ne_true (hc'.symm.trans (List.dropWhile_eq_nil_iff.1 hnil c hc))
  refine toList_canonicalUri_eq h ⟨fun d hd => ?_, ?_, slashes,
    ⟨before ++ text.takeWhile isBlank, after, ?_, fun d hd => ?_, hslashes, hafter⟩,
    fun hnil => absurd hnil hne⟩
  · rw [List.head?_append_of_ne_nil _ hrest] at hd
    have := List.head?_dropWhile_not isBlank text
    rw [hd] at this
    simpa using this
  · rw [List.getLast?_concat]
    rintro ⟨⟩
    exact absurd hblank (by decide)
  · rw [huri]
    simp only [List.append_assoc, ← List.append_assoc (text.takeWhile isBlank),
      List.takeWhile_append_dropWhile]
  · exact (List.mem_append.1 hd).elim (hbefore d) List.mem_takeWhile_imp

/-- There is no other white space at the end of a canonical URI. -/
theorem last_canonicalUri_iff : (∀ c, r.canonicalUri.toList.getLast? = some c → isBlank c = false) ↔
    ¬r.HasBlankBeforeSlashes := by
  constructor
  · rintro hlast ⟨hremote, text, blank, slashes, hdressed, htext, hblank, hne⟩
    rw [toList_canonicalUri_of_blank hremote hdressed htext hblank hne] at hlast
    exact Bool.false_ne_true ((hlast blank List.getLast?_concat).symm.trans hblank)
  · intro hnone c hc
    by_contra hblank
    rw [Bool.not_eq_false] at hblank
    cases h : r.isLocal with
    | true =>
        have hbare := (isBare_canonicalUri_of_isLocal h).last c hc
        exact Bool.false_ne_true (hbare.symm.trans hblank)
    | false =>
        obtain ⟨hhead, -, slashes, hdressed, hend⟩ := isCore_canonicalUri h
        obtain ⟨front, hfront⟩ := List.getLast?_eq_some_iff.1 hc
        rw [hfront] at hdressed hhead
        refine hnone ⟨h, front, c, slashes, hdressed, ?_, hblank, fun hnil => ?_⟩
        · cases front with
          | nil => exact absurd (hhead c rfl) (by simp [hblank])
          | cons d front => exact ⟨d, List.mem_cons_self, hhead d rfl⟩
        · exact Bool.false_ne_true ((hend hnil c hc).symm.trans hblank)

theorem isBare_canonicalUri_iff : IsBare isBlank r.canonicalUri.toList ↔
    ∀ c, r.canonicalUri.toList.getLast? = some c → isBlank c = false := by
  refine ⟨IsBare.last, fun hlast => ⟨?_, hlast⟩⟩
  cases h : r.isLocal with
  | true => exact (isBare_canonicalUri_of_isLocal h).head
  | false => exact (isCore_canonicalUri h).head

theorem canonical_canonical_iff :
    r.canonical.canonical = r.canonical ↔ IsBare isBlank r.canonicalUri.toList := by
  cases h : r.isLocal with
  | true =>
      exact iff_of_true (canonical_canonical_of_isLocal h) (isBare_canonicalUri_of_isLocal h)
  | false =>
      have hremote := isLocal_canonical h
      rw [canonical_eq_self_iff, uri_canonical]
      constructor
      · intro hsame
        have hcore := isCore_canonicalUri hremote
        rw [hsame, uri_canonical] at hcore
        exact hcore.isBare
      · intro hbare
        have hdressed : IsDressed r.canonicalUri.toList [] r.canonical.uri.toList :=
          ⟨[], [], by simp [uri_canonical], by simp, by simp, by simp⟩
        exact toList_canonicalUri_eq hremote
          (.of_isDressed hbare (getLast?_canonicalUri h) hdressed)

/-- Canonical forms differ from what they are made of in the URI alone and are in the same place.
Their URIs have no white space in front, and those of servers no slashes at the end. They have no
white space at the end, and are canonical already, if and only if there was none in front of such
slashes; and URIs that consist of the same text, with white space around it and slashes behind it,
are brought to that text. -/
theorem canonical_isNormal_iff (r : Repository) :
    r.canonical = { r with uri := r.canonical.uri } ∧
    r.canonical.isLocal = r.isLocal ∧ r.canonical.localPath? = r.localPath? ∧
    (∀ c, r.canonical.uri.toList.head? = some c → isBlank c = false) ∧
    (r.isLocal = false → r.canonical.uri.toList.getLast? ≠ some '/') ∧
    ((∀ c, r.canonical.uri.toList.getLast? = some c → isBlank c = false) ↔
      ¬r.HasBlankBeforeSlashes) ∧
    (r.canonical.canonical = r.canonical ↔ ¬r.HasBlankBeforeSlashes) ∧
    ∀ core slashes, IsDressed core slashes r.uri.toList → IsBare isBlank core →
      (r.isLocal = true → slashes = []) → (r.isLocal = false → core.getLast? ≠ some '/') →
        r.canonical.uri = String.ofList core := by
  refine ⟨rfl, isLocal_canonical_eq r, localPath?_canonical r, fun c hc => ?_,
    getLast?_canonicalUri, last_canonicalUri_iff, ?_,
    fun core slashes hdressed hbare hlocal hlast => ?_⟩
  · cases h : r.isLocal with
    | true => exact (isBare_canonicalUri_of_isLocal h).head c hc
    | false => exact (isCore_canonicalUri h).head c hc
  · rw [canonical_canonical_iff, isBare_canonicalUri_iff, last_canonicalUri_iff]
  · rw [uri_canonical, ← String.toList_inj, String.toList_ofList]
    cases h : r.isLocal with
    | true =>
        obtain rfl := hlocal h
        obtain ⟨before, after, huri, hbefore, -, hafter⟩ := hdressed
        rw [toList_canonicalUri_of_isLocal h, huri, List.append_nil]
        exact strip_of_isBare hbare hbefore hafter
    | false => exact toList_canonicalUri_eq h (.of_isDressed hbare (hlast h) hdressed)

/-- What is left at the end is dropped the next time. -/
theorem not_forall_canonical_isNormal : ¬∀ r : Repository,
    IsBare isBlank r.canonical.uri.toList ∧ r.canonical.canonical = r.canonical := by
  intro hall
  let r : Repository := { id := "r", uri := "http://h /" }
  have hlast : r.canonical.uri.toList.getLast? = some ' ' := by decide +kernel
  exact absurd ((hall r).1.last ' ' hlast) (by decide)

end Repository

end Depot
