import Depot.Digest.Checksum
import Depot.Proofs.Stripping
import Depot.Proofs.WrittenBytes

/-!
Which of the headers that announce a hash counts. Of each kind only one header is read, the first of
the preferred name, and nothing else is looked at when its value is no hash. So a malformed header
can be taken away without a change unless it is the one that is read, and the one that is read
after it holds a hash, which it has hidden.
-/

namespace Depot.Digest

open Http Text Utf8

namespace Hex

def alphabet : List Char := "0123456789abcdefABCDEF".toList

theorem isSome_hexValue? {c : Char} : (hexValue? c).isSome ↔ c ∈ alphabet := by
  constructor
  · intro h
    obtain ⟨d, hd⟩ := Option.isSome_iff_exists.1 h
    exact forall_ascii (P := fun c => (hexValue? c).isSome → c ∈ alphabet) (by decide)
      (hexValue?_eq_some hd).1 h
  · have hall : alphabet.all (fun c => (hexValue? c).isSome) = true := by decide
    exact List.all_eq_true.1 hall c

theorem readPairs?_eq_some {s : List Char} {bytes : Bytes} (h : readPairs? s = some bytes) :
    s.length = 2 * bytes.length ∧ ∀ c ∈ s, c ∈ alphabet := by
  fun_induction readPairs? s generalizing bytes with
  | case1 =>
      cases h
      simp
  | case2 hi lo rest ih =>
      simp only [Option.bind_eq_bind, Option.bind_eq_some_iff] at h
      obtain ⟨x, hx, y, hy, more, hmore, h⟩ := h
      cases h
      obtain ⟨hlength, hall⟩ := ih hmore
      refine ⟨by simp only [List.length_cons]; omega, ?_⟩
      simp only [List.forall_mem_cons]
      exact ⟨isSome_hexValue?.1 (by simp [hx]), isSome_hexValue?.1 (by simp [hy]), hall⟩
  | case3 => cases h

theorem exists_readPairs? {size : Nat} {s : List Char} (hlength : s.length = 2 * size)
    (hall : ∀ c ∈ s, c ∈ alphabet) : ∃ bytes, readPairs? s = some bytes ∧ bytes.length = size := by
  induction size generalizing s with
  | zero => exact ⟨[], by rw [List.length_eq_zero_iff.1 hlength]; rfl, rfl⟩
  | succ size ih =>
      obtain ⟨hi, lo, rest, rfl⟩ : ∃ hi lo rest, s = hi :: lo :: rest := by
        match s, hlength with
        | hi :: lo :: rest, _ => exact ⟨hi, lo, rest, rfl⟩
      simp only [List.forall_mem_cons] at hall
      obtain ⟨hhi, hlo, hrest⟩ := hall
      obtain ⟨x, hx⟩ := Option.isSome_iff_exists.1 (isSome_hexValue?.2 hhi)
      obtain ⟨y, hy⟩ := Option.isSome_iff_exists.1 (isSome_hexValue?.2 hlo)
      obtain ⟨bytes, hbytes, hsize⟩ := ih (by simpa [Nat.mul_succ] using hlength) hrest
      refine ⟨UInt8.ofNat (x * 16 + y) :: bytes, ?_, by simp [hsize]⟩
      rw [readPairs?, hx, hy, hbytes]
      rfl

theorem isSome_read? {size : Nat} {s : List Char} :
    (read? size s).isSome ↔ s.length = 2 * size ∧ ∀ c ∈ s, c ∈ alphabet := by
  constructor
  · intro h
    obtain ⟨bytes, hbytes⟩ := Option.isSome_iff_exists.1 h
    obtain ⟨hread, hsize⟩ := Option.filter_eq_some_iff.1 hbytes
    obtain ⟨hlength, hall⟩ := readPairs?_eq_some hread
    exact ⟨by rw [hlength, beq_iff_eq.1 hsize], hall⟩
  · rintro ⟨hlength, hall⟩
    obtain ⟨bytes, hread, hsize⟩ := exists_readPairs? hlength hall
    rw [read?, hread, Option.filter_some_pos (by simp [hsize])]
    rfl

end Hex

namespace Algorithm

/-- The names of the headers for a hash of the kind, the preferred ones first. -/
def headerNames : Algorithm → List String
  | sha1 => Checksums.sha1Names
  | md5 => Checksums.md5Names

/-- How a hash of the kind is written in a header: two hexadecimal digits for each byte and, if it
is a SHA-1, possibly quotes around them. -/
def IsHash (a : Algorithm) (value : Bytes) : Prop :=
  ∃ before digits after,
    digits.length = 2 * a.size ∧ (∀ c ∈ digits, c ∈ Hex.alphabet) ∧
    (∀ c ∈ before ++ after, c = '"') ∧ (a = md5 → before ++ after = []) ∧
    value = asciiBytes (before ++ digits ++ after)

theorem eq_of_mem_headerNames {a b : Algorithm} {name : String} (ha : name ∈ a.headerNames)
    (hb : name ∈ b.headerNames) : a = b := by
  have hdisjoint : ∀ name ∈ Checksums.sha1Names, name ∉ Checksums.md5Names := by decide
  cases a <;> cases b
  · rfl
  · exact absurd hb (hdisjoint name ha)
  · exact absurd ha (hdisjoint name hb)
  · rfl

end Algorithm

namespace Checksums

variable {a : Algorithm} {names : List String} {front back : Headers} {h : Header}

/-- The text of a hash without what may stand around it. -/
def bare : Algorithm → List Char → List Char
  | .sha1 => unquote
  | .md5 => id

/-- The hash in a header. -/
def hash? (a : Algorithm) (h : Header) : Option Bytes :=
  h.text?.bind fun text => Hex.read? a.size (bare a text)

def get (sums : Checksums) : Algorithm → Option Bytes
  | .sha1 => sums.sha1
  | .md5 => sums.md5

theorem eq_iff_get {sums sums' : Checksums} : sums = sums' ↔ ∀ a, sums.get a = sums'.get a := by
  constructor
  · rintro rfl _
    rfl
  · intro h
    cases sums
    cases sums'
    rw [mk.injEq]
    exact ⟨h .sha1, h .md5⟩

theorem get_announced (hs : Headers) (a : Algorithm) :
    (announced hs).get a = (preferred? hs a.headerNames).bind (hash? a) := by
  cases a <;> rfl

theorem text?_eq_some {text : List Char} (hh : h.text? = some text) :
    h.value = asciiBytes text := by
  unfold Header.text? at hh
  split at hh
  · rename_i hall
    cases hh
    refine ((List.map_congr_left fun b hb => ?_).trans (List.map_id _)).symm.trans
      (List.map_map ..).symm
    have hcode : b.toNat < 128 := by
      have hvalid := List.all_eq_true.1 hall b hb
      simp [UInt8.le_iff_toNat_le, UInt8.lt_iff_toNat_lt, ← UInt8.toNat_inj] at hvalid
      omega
    have hchar : (Char.ofNat b.toNat).toNat = b.toNat := by
      rw [Char.ofNat, dif_pos (.inl (by omega))]
      rfl
    simp [hchar]
  · cases hh

theorem text?_asciiBytes {text : List Char} (hvalue : h.value = asciiBytes text)
    (hall : ∀ c ∈ text, c = '"' ∨ c ∈ Hex.alphabet) : h.text? = some text := by
  have hprinted : ('"' :: Hex.alphabet).all (fun c => 32 ≤ c.toNat ∧ c.toNat < 127) = true := by
    decide
  have hbyte : ∀ c ∈ text, 32 ≤ c.toNat ∧ c.toNat < 127 := fun c hc =>
    of_decide_eq_true (List.all_eq_true.1 hprinted c (List.mem_cons.2 (hall c hc)))
  unfold Header.text?
  rw [hvalue, asciiBytes, if_pos, List.map_map]
  · refine congrArg some ((List.map_congr_left fun c hc => ?_).trans (List.map_id _))
    have hc := hbyte c hc
    rw [Function.comp_apply, toNat_ascii (by omega), Char.ofNat_toNat]
    rfl
  · rw [List.all_map, List.all_eq_true]
    intro c hc
    have hc := hbyte c hc
    have hcode := toNat_ascii (c := c) (by omega)
    simp only [Function.comp_apply, Bool.or_eq_true, beq_iff_eq, Bool.and_eq_true,
      decide_eq_true_eq, UInt8.le_iff_toNat_le, UInt8.lt_iff_toNat_lt, hcode]
    exact .inr hc

theorem isSome_hash? : (hash? a h).isSome ↔ a.IsHash h.value := by
  constructor
  · intro hsome
    obtain ⟨hash, hhash⟩ := Option.isSome_iff_exists.1 hsome
    obtain ⟨text, htext, hread⟩ := Option.bind_eq_some_iff.1 hhash
    obtain ⟨hlength, hall⟩ := Hex.isSome_read?.1 (Option.isSome_iff_exists.2 ⟨hash, hread⟩)
    have hvalue := text?_eq_some htext
    cases a with
    | sha1 =>
        obtain ⟨before, after, hsplit, hbefore, hafter⟩ := exists_strip (· == '"') text
        refine ⟨before, unquote text, after, hlength, hall, fun c hc => ?_, by simp,
          hsplit ▸ hvalue⟩
        exact beq_iff_eq.1 ((List.mem_append.1 hc).elim (hbefore c) (hafter c))
    | md5 => exact ⟨[], text, [], hlength, hall, by simp, by simp, by simpa using hvalue⟩
  · rintro ⟨before, digits, after, hlength, hall, hquotes, hmd5, hvalue⟩
    have hdigit : ∀ c ∈ digits, (c == '"') = false := fun c hc => by
      rw [beq_eq_false_iff_ne]
      rintro rfl
      exact absurd (hall _ hc) (by decide)
    have hbare : bare a (before ++ digits ++ after) = digits := by
      cases a with
      | sha1 =>
          obtain ⟨hbefore, hafter⟩ := List.forall_mem_append.1 hquotes
          exact strip_of_isBare ⟨fun c hc => hdigit c (List.mem_of_head? hc),
            fun c hc => hdigit c (List.mem_of_getLast? hc)⟩
            (fun c hc => beq_iff_eq.2 (hbefore c hc)) fun c hc => beq_iff_eq.2 (hafter c hc)
      | md5 =>
          obtain ⟨rfl, rfl⟩ := List.append_eq_nil_iff.1 (hmd5 rfl)
          simp [bare]
    rw [hash?, text?_asciiBytes hvalue fun c hc => ?_, Option.bind_some, hbare, Hex.isSome_read?]
    · exact ⟨hlength, hall⟩
    · rw [List.append_assoc, List.mem_append, List.mem_append] at hc
      rcases hc with hc | hc | hc
      · exact .inl (hquotes c (List.mem_append_left _ hc))
      · exact .inr (hall c hc)
      · exact .inl (hquotes c (List.mem_append_right _ hc))

/-- The header between these others is the one that is read: none in front of it has its name or a
preferred one, and none behind it has a preferred one. -/
structure IsRead (names : List String) (front : Headers) (h : Header) (back : Headers) : Prop where
  named : h.name ∈ names
  front : ∀ k ∈ front, names.idxOf h.name < names.idxOf k.name
  back : ∀ k ∈ back, names.idxOf h.name ≤ names.idxOf k.name

theorem get?_eq_none {hs : Headers} {name : String} :
    hs.get? name = none ↔ ∀ k ∈ hs, k.name ≠ name := by
  simp [Headers.get?]

/-- Names that no header has do not matter. -/
theorem isRead_cons {name : String} (hh : h.name ≠ name)
    (hall : ∀ k ∈ front ++ back, k.name ≠ name) :
    IsRead (name :: names) front h back ↔ IsRead names front h back := by
  obtain ⟨hfront, hback⟩ := List.forall_mem_append.1 hall
  constructor
  · rintro ⟨hnamed, hf, hb⟩
    refine ⟨(List.mem_cons.1 hnamed).resolve_left hh, fun k hk => ?_, fun k hk => ?_⟩
    · simpa [List.idxOf_cons_ne _ hh.symm, List.idxOf_cons_ne _ (hfront k hk).symm] using hf k hk
    · simpa [List.idxOf_cons_ne _ hh.symm, List.idxOf_cons_ne _ (hback k hk).symm] using hb k hk
  · rintro ⟨hnamed, hf, hb⟩
    refine ⟨List.mem_cons_of_mem _ hnamed, fun k hk => ?_, fun k hk => ?_⟩
    · simpa [List.idxOf_cons_ne _ hh.symm, List.idxOf_cons_ne _ (hfront k hk).symm] using hf k hk
    · simpa [List.idxOf_cons_ne _ hh.symm, List.idxOf_cons_ne _ (hback k hk).symm] using hb k hk

theorem preferred?_cons_of_ne {hs : Headers} {name : String} (hnone : ∀ k ∈ hs, k.name ≠ name) :
    preferred? hs (name :: names) = preferred? hs names := by
  rw [preferred?, List.findSome?_cons, get?_eq_none.2 hnone]
  rfl

theorem forall_mem_insert {P : Header → Prop} (hh : P h) (hothers : ∀ k ∈ front ++ back, P k) :
    ∀ k ∈ front ++ h :: back, P k := by
  obtain ⟨hfront, hback⟩ := List.forall_mem_append.1 hothers
  exact List.forall_mem_append.2 ⟨hfront, List.forall_mem_cons.2 ⟨hh, hback⟩⟩

theorem preferred?_of_isRead (hread : IsRead names front h back) :
    preferred? (front ++ h :: back) names = some h := by
  induction names with
  | nil => cases hread.named
  | cons name names ih =>
      by_cases hname : h.name = name
      · have hfront : front.find? (fun k => k.name == name) = none :=
          get?_eq_none.2 fun k hk hk' => by simpa [hname, hk'] using hread.front k hk
        rw [preferred?, List.findSome?_cons]
        simp [Headers.get?, List.find?_append, hfront, hname]
      · have hothers : ∀ k ∈ front ++ back, k.name ≠ name := fun k hk hk' => by
          rcases List.mem_append.1 hk with hk | hk
          · simpa [hk'] using hread.front k hk
          · simpa [hk', List.idxOf_cons_ne _ (Ne.symm hname)] using hread.back k hk
        rw [preferred?_cons_of_ne (forall_mem_insert hname hothers)]
        exact ih ((isRead_cons hname hothers).1 hread)

theorem exists_isRead {hs : Headers} (hpreferred : preferred? hs names = some h) :
    ∃ front back, hs = front ++ h :: back ∧ IsRead names front h back := by
  induction names with
  | nil => cases hpreferred
  | cons name names ih =>
      cases hfound : hs.get? name with
      | some k =>
          have hk : k = h := by simpa [preferred?, List.findSome?_cons, hfound] using hpreferred
          subst hk
          obtain ⟨hname, front, back, rfl, hfront⟩ := List.find?_eq_some_iff_append.1 hfound
          have hname := beq_iff_eq.1 hname
          refine ⟨front, back, rfl, List.mem_cons.2 (.inl hname), fun j hj => ?_, fun j _ => ?_⟩
          · have hj : j.name ≠ name := by simpa using hfront j hj
            simp [hname, List.idxOf_cons_ne _ hj.symm]
          · simp [hname]
      | none =>
          have hnone := get?_eq_none.1 hfound
          rw [preferred?_cons_of_ne hnone] at hpreferred
          obtain ⟨front, back, rfl, hread⟩ := ih hpreferred
          obtain ⟨hfront, hback⟩ := List.forall_mem_append.1 hnone
          obtain ⟨hname, hback⟩ := List.forall_mem_cons.1 hback
          exact ⟨front, back, rfl,
            (isRead_cons hname (List.forall_mem_append.2 ⟨hfront, hback⟩)).2 hread⟩

/-- A header that is not read may as well not be there. -/
theorem preferred?_of_not_isRead (hread : ¬IsRead names front h back) :
    preferred? (front ++ back) names = preferred? (front ++ h :: back) names := by
  induction names with
  | nil => rfl
  | cons name names ih =>
      by_cases hname : h.name = name
      · obtain ⟨k, hk⟩ : ∃ k, front.find? (fun k => k.name == name) = some k := by
          by_contra hnone
          rw [← Option.isSome_iff_exists, Option.not_isSome_iff_eq_none] at hnone
          have hfront := get?_eq_none.1 hnone
          refine hread ⟨List.mem_cons.2 (.inl hname), fun j hj => ?_, fun j _ => ?_⟩
          · simp [hname, List.idxOf_cons_ne _ (hfront j hj).symm]
          · simp [hname]
        rw [preferred?, preferred?, List.findSome?_cons, List.findSome?_cons]
        simp [Headers.get?, List.find?_append, hk]
      · have hsame :
            Headers.get? (front ++ h :: back) name = Headers.get? (front ++ back) name := by
          simp [Headers.get?, List.find?_append, hname]
        cases hfound : Headers.get? (front ++ back) name with
        | some k => simp [preferred?, hsame, hfound]
        | none =>
            have hothers := get?_eq_none.1 hfound
            rw [preferred?_cons_of_ne hothers,
              preferred?_cons_of_ne (forall_mem_insert hname hothers)]
            exact ih fun h' => hread ((isRead_cons hname hothers).2 h')

/-- The header between these others holds no hash but is read in the place of one that does. -/
structure Hides (a : Algorithm) (front : Headers) (h : Header) (back : Headers) : Prop where
  read : IsRead a.headerNames front h back
  hidden : ∃ front' k back', front ++ back = front' ++ k :: back' ∧
    IsRead a.headerNames front' k back' ∧ a.IsHash k.value

theorem get_announced_of_isRead (hread : IsRead a.headerNames front h back) :
    (announced (front ++ h :: back)).get a = hash? a h := by
  rw [get_announced, preferred?_of_isRead hread, Option.bind_some]

/-- A header that holds no hash can be taken away, unless it is the one that is read and hides a
hash in another one. While it is read nothing is announced, whatever the others hold. -/
theorem announced_without_iff (hname : h.name ∈ a.headerNames) (hbad : ¬a.IsHash h.value) :
    (announced (front ++ back) = announced (front ++ h :: back) ↔ ¬Hides a front h back) ∧
    (IsRead a.headerNames front h back → (announced (front ++ h :: back)).get a = none) := by
  have hnothing : hash? a h = none := by rwa [← Option.not_isSome_iff_eq_none, isSome_hash?]
  refine ⟨⟨fun hsame hhides => ?_, fun hhides => ?_⟩, fun hread => ?_⟩
  · obtain ⟨hread, front', k, back', hsplit, hread', hhash⟩ := hhides
    have hget := eq_iff_get.1 hsame a
    rw [hsplit, get_announced_of_isRead hread', get_announced_of_isRead hread, hnothing] at hget
    rw [← isSome_hash?, hget] at hhash
    cases hhash
  · refine eq_iff_get.2 fun b => ?_
    rw [get_announced, get_announced]
    by_cases hread : IsRead b.headerNames front h back
    · obtain rfl := Algorithm.eq_of_mem_headerNames hread.named hname
      rw [preferred?_of_isRead hread, Option.bind_some, hnothing, Option.bind_eq_none_iff]
      intro k hk
      obtain ⟨front', back', hsplit, hread'⟩ := exists_isRead hk
      rw [← Option.not_isSome_iff_eq_none, isSome_hash?]
      exact fun hhash => hhides ⟨hread, front', k, back', hsplit, hread', hhash⟩
    · rw [preferred?_of_not_isRead hread]
  · rw [get_announced_of_isRead hread, hnothing]

/-- A tag of another form behind the header that is read. -/
theorem announced_without_tag :
    let hash : Header := ⟨"x-checksum-sha1", encode "aaf4c61ddcc5e8a2dabede0f3b482cd9aea9434d"⟩
    let tag : Header := ⟨"etag", encode "W/\"5f3c-17a\""⟩
    tag.name ∈ Algorithm.sha1.headerNames ∧ ¬Algorithm.sha1.IsHash tag.value ∧
      announced [hash] = announced [hash, tag] := by
  intro hash tag
  have hname : tag.name ∈ Algorithm.sha1.headerNames := by decide
  have hbad : ¬Algorithm.sha1.IsHash tag.value := by
    rw [← isSome_hash?]
    decide +kernel
  have hshown : ¬Hides .sha1 [hash] tag [] := fun hhides =>
    absurd (hhides.read.front hash List.mem_cons_self) (by decide)
  exact ⟨hname, hbad, (announced_without_iff hname hbad).1.2 hshown⟩

/-- A malformed header hides the hash in a tag. -/
theorem not_forall_announced_without :
    ¬∀ (front : Headers) (h : Header) (back : Headers) (a : Algorithm),
      h.name ∈ a.headerNames → ¬a.IsHash h.value →
        announced (front ++ back) = announced (front ++ h :: back) := by
  intro hall
  let bad : Header := ⟨"x-checksum-sha1", encode "nope"⟩
  let tag : Header :=
    ⟨"etag", encode "\"aaf4c61ddcc5e8a2dabede0f3b482cd9aea9434d\""⟩
  have hbad : ¬Algorithm.sha1.IsHash bad.value := by
    rw [← isSome_hash?]
    decide +kernel
  exact absurd (hall [] bad [tag] .sha1 (by decide) hbad) (by decide +kernel)

end Checksums

end Depot.Digest
