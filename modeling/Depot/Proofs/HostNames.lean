import Depot.Proofs.Locations
import Depot.Proofs.Results
import Depot.Proofs.WrittenBytes

/-!
Names of hosts in ASCII. They are never composed, folded or encoded: a name that is written with
characters that may stand in one is kept as it is, in small letters, and whatever a name is written
with, these are the characters that it is brought to.
-/

namespace Depot

open Text Text.Utf8

namespace Text

theorem splitAll_eq_splitOn (sep : Char) (s : List Char) : splitAll sep s = s.splitOn sep := by
  induction s with
  | nil => rfl
  | cons c s ih =>
      rw [splitAll, List.splitOn_cons_eq_if_modifyHead, ih]
      simp only [beq_iff_eq]
      split
      · rfl
      · split
        · rename_i hs
          exact absurd hs (List.splitOn_ne_nil sep s)
        · rename_i part parts hs
          rw [hs]
          rfl

theorem intercalate_splitAll (sep : Char) (s : List Char) :
    [sep].intercalate (splitAll sep s) = s := by
  rw [splitAll_eq_splitOn, List.intercalate_splitOn]

/-- What stands behind the last separator. -/
theorem singleton_suffix_splitAll {sep : Char} {part : List Char} (hpart : sep ∉ part)
    (s : List Char) : [part] <:+ splitAll sep s ↔ s = part ∨ ∃ front, s = front ++ sep :: part := by
  have hlast (front : List (List Char)) (last : List Char) : [part] <:+ front ++ [last] ↔
      part = last := by
    rw [← List.reverse_prefix, List.reverse_concat, List.reverse_singleton, List.cons_prefix_cons]
    exact and_iff_left (List.nil_prefix)
  rw [splitAll_eq_splitOn]
  by_cases hsep : sep ∈ s
  · cases hsplit : splitLast sep s with
    | none => exact absurd hsep (splitLast_eq_none.1 hsplit)
    | some halves =>
        obtain ⟨before, after⟩ := halves
        obtain ⟨rfl, hafter⟩ := splitLast_eq_some hsplit
        rw [List.splitOn_append_cons_self, List.splitOn_eq_singleton hafter, hlast]
        constructor
        · rintro rfl
          exact .inr ⟨before, rfl⟩
        · rintro (rfl | ⟨front, hfront⟩)
          · exact absurd hsep hpart
          · rw [hfront, splitLast_append hpart] at hsplit
            cases hsplit
            rfl
  · have hself := hlast [] s
    rw [List.nil_append] at hself
    rw [List.splitOn_eq_singleton hsep, hself]
    constructor
    · exact fun h => .inl h.symm
    · rintro (h | ⟨front, rfl⟩)
      · exact h.symm
      · exact absurd (List.mem_append_right _ List.mem_cons_self) hsep

theorem mem_intercalate {sep c : Char} {parts : List (List Char)}
    (h : c ∈ [sep].intercalate parts) : c = sep ∨ ∃ part ∈ parts, c ∈ part := by
  induction parts with
  | nil => cases h
  | cons part parts ih =>
      cases parts with
      | nil => exact .inr ⟨part, List.mem_cons_self, by simpa using h⟩
      | cons part' parts =>
          rw [List.intercalate_cons_cons, List.mem_append, List.mem_append,
            List.mem_singleton] at h
          rcases h with (h | h) | h
          · exact .inr ⟨part, List.mem_cons_self, h⟩
          · exact .inl h
          · exact (ih h).imp_right fun ⟨part, hpart, hc⟩ => ⟨part, List.mem_cons_of_mem _ hpart, hc⟩

theorem exists_mem_splitAll (sep : Char) {c : Char} {s : List Char} (hc : c ∈ s) :
    c = sep ∨ ∃ part ∈ splitAll sep s, c ∈ part := by
  rw [← intercalate_splitAll sep s] at hc
  exact mem_intercalate hc

theorem mem_of_mem_splitAll {sep c : Char} {s part : List Char} (hpart : part ∈ splitAll sep s)
    (hc : c ∈ part) : c ∈ s := by
  induction s generalizing part with
  | nil =>
      rw [List.mem_singleton.1 hpart] at hc
      cases hc
  | cons d s ih =>
      rw [splitAll] at hpart
      split at hpart
      · rcases List.mem_cons.1 hpart with rfl | hpart
        · cases hc
        · exact List.mem_cons_of_mem _ (ih hpart hc)
      · split at hpart
        · rename_i hs
          exact absurd hs (splitAll_ne_nil sep s)
        · rename_i first parts hs
          rw [hs] at ih
          rcases List.mem_cons.1 hpart with rfl | hpart
          · exact (List.mem_cons.1 hc).elim (fun hc => by simp [hc]) fun hc =>
              List.mem_cons_of_mem _ (ih List.mem_cons_self hc)
          · exact List.mem_cons_of_mem _ (ih (List.mem_cons_of_mem _ hpart) hc)

namespace Mark

theorem combiningClass_ascii {c : Char} (h : c.toNat < 0x80) : combiningClass c = 0 := by
  have hall : ∀ entry ∈ classes, 0x80 ≤ entry.1 := by decide +kernel
  rw [combiningClass, List.find?_eq_none.2]
  intro entry hentry
  have := hall entry hentry
  simp only [Bool.and_eq_true, decide_eq_true_eq, not_and]
  omega

end Mark

namespace Composite

theorem pairs_ascii : ∀ pair ∈ pairs, 0x80 ≤ pair.1 ∧ 0x80 ≤ pair.2.2 := by decide +kernel

theorem split_ascii {c : Char} (h : c.toNat < 0x80) : split depth c = [c] := by
  rw [depth, split, if_neg (by unfold syllables; omega), List.find?_eq_none.2]
  intro pair hpair
  have := (pairs_ascii pair hpair).1
  rw [beq_iff_eq]
  omega

theorem decompose_ascii {s : List Char} (h : IsAscii s) : decompose s = s := by
  have hsplit : s.flatMap (split depth) = s := by
    rw [List.flatMap_congr fun c hc => split_ascii (h c hc), List.flatMap_singleton']
  rw [decompose, hsplit]
  clear hsplit
  induction s with
  | nil => rfl
  | cons c s ih =>
      rw [List.foldr_cons, ih fun d hd => h d (List.mem_cons_of_mem _ hd)]
      cases s with
      | nil => rfl
      | cons d s =>
          rw [place, Mark.combiningClass_ascii (h d (by simp))]
          simp

theorem join?_ascii (a : Char) {b : Char} (h : b.toNat < 0x80) : join? a b = none := by
  have hsyllable : joinSyllable? a b = none := by
    unfold joinSyllable?
    dsimp only
    rw [if_neg (by unfold vowels; omega), if_neg (by unfold trails; omega)]
  rw [join?, hsyllable, List.find?_eq_none.2]
  · rfl
  · rintro ⟨composite, first, second⟩ hpair
    have := (pairs_ascii _ hpair).2
    simp only [Bool.and_eq_true, beq_iff_eq, not_and]
    dsimp only at this
    omega

theorem composeFrom_ascii (c : Char) {s : List Char} (h : IsAscii s) :
    composeFrom ⟨c, []⟩ s = c :: s := by
  induction s generalizing c with
  | nil => rfl
  | cons d s ih =>
      have hd := h d List.mem_cons_self
      rw [composeFrom, join?_ascii c hd, Mark.combiningClass_ascii hd]
      simp [Open.close, ih d fun e he => h e (List.mem_cons_of_mem _ he)]

theorem compose_ascii {s : List Char} (h : IsAscii s) : compose s = s := by
  unfold compose
  dsimp only
  rw [decompose_ascii h]
  cases s with
  | nil => rfl
  | cons c s =>
      have hmarks : (c :: s).takeWhile (fun c => decide (Mark.combiningClass c ≠ 0)) = [] :=
        List.takeWhile_cons_of_neg (by simp [Mark.combiningClass_ascii (h c List.mem_cons_self)])
      rw [hmarks]
      exact composeFrom_ascii c fun d hd => h d (List.mem_cons_of_mem _ hd)

end Composite

end Text

namespace Url

theorem Percent.decodeBytes_eq_self {bytes : Bytes} (h : 0x25 ∉ bytes) :
    decodeBytes bytes = bytes := by
  induction bytes with
  | nil => rfl
  | cons b bytes ih =>
      rw [List.mem_cons, not_or] at h
      rw [decodeBytes, ih h.2]
      rintro hi lo rest rfl
      exact absurd rfl h.1

theorem Percent.decode_ascii {s : List Char} (h : IsAscii s) (hpercent : '%' ∉ s) :
    decode s = asciiBytes s := by
  rw [decode, encode_ascii h, decodeBytes_eq_self]
  intro hmem
  obtain ⟨c, hc, hcode⟩ := List.mem_map.1 hmem
  have hsame := congrArg UInt8.toNat hcode
  rw [toNat_ascii (h c hc)] at hsame
  obtain rfl : c = '%' := Char.toNat_inj.1 hsame
  exact hpercent hc

namespace Domain

/-- A character of ASCII that may stand in a name. -/
def IsNameChar (c : Char) : Prop := c.toNat < 0x80 ∧ isForbidden c = false

instance (c : Char) : Decidable (IsNameChar c) := inferInstanceAs (Decidable (_ ∧ _))

theorem toLower_of_not_ascii {c : Char} (h : ¬c.toNat < 0x80) : c.toLower = c := by
  refine dif_neg ?_
  rintro ⟨-, hupper⟩
  have := UInt32.le_iff_toNat_le.1 hupper
  simp only [Char.toNat, Char.reduceVal, UInt32.reduceToNat] at h this
  omega

theorem toLower_toLower (c : Char) : c.toLower.toLower = c.toLower := by
  by_cases h : c.toNat < 0x80
  · exact forall_ascii (P := fun c => c.toLower.toLower = c.toLower) (by decide) h
  · rw [toLower_of_not_ascii h, toLower_of_not_ascii h]

theorem isNameChar_toLower {c : Char} : IsNameChar c.toLower ↔ IsNameChar c := by
  by_cases h : c.toNat < 0x80
  · exact forall_ascii (P := fun c => IsNameChar c.toLower ↔ IsNameChar c) (by decide) h
  · rw [toLower_of_not_ascii h]

theorem unify?_ascii {s : List Char} (h : IsAscii s) : unify? s = some (s.map Char.toLower) := by
  have hfold : s.mapM fold? = some (s.map fun c => [c.toLower]) := by
    induction s with
    | nil => rfl
    | cons c s ih =>
        rw [List.mapM_cons, fold?, if_pos (h c List.mem_cons_self),
          ih fun d hd => h d (List.mem_cons_of_mem _ hd)]
        rfl
  have hlower : IsAscii (s.map Char.toLower) := fun c hc => by
    obtain ⟨d, hd, rfl⟩ := List.mem_map.1 hc
    exact forall_ascii (P := fun c => c.toLower.toNat < 0x80) (by decide) (h d hd)
  have hflatten : (s.map fun c => [c.toLower]).flatten = s.map Char.toLower := by
    rw [← List.flatMap_def, List.map_eq_flatMap]
  rw [unify?, hfold]
  simp only [Option.bind_eq_bind, Option.bind_some]
  rw [hflatten, Composite.compose_ascii hlower]
  rfl

variable {s name : List Char}

theorem all_isAscii (h : IsAscii s) : s.all isAscii = true :=
  List.all_eq_true.2 fun c hc => decide_eq_true (h c hc)

theorem label?_ascii {l : Label} (h : IsAscii s) (hl : label? s = some l) : l.ascii = s := by
  unfold label? at hl
  simp only [all_isAscii h, if_true] at hl
  split at hl
  · obtain ⟨text, -, rfl⟩ := Option.map_eq_some_iff.1 hl
    rfl
  · cases hl
    rfl

/-- A name consists of what is written for its labels. -/
theorem ofUnified?_eq_some (h : ofUnified? s = some name) : (∀ c ∈ s, isForbidden c = false) ∧
    ∃ labels, (splitAll '.' s).mapM label? = some labels ∧
      name = ['.'].intercalate (labels.map Label.ascii) := by
  unfold ofUnified? at h
  split at h
  · cases h
  · rename_i hallowed
    simp only [Option.bind_eq_bind, Option.bind_eq_some_iff] at h
    obtain ⟨labels, hlabels, h⟩ := h
    split at h
    · cases h
      exact ⟨by simpa using hallowed, labels, hlabels, rfl⟩
    · cases h

theorem ofUnified?_ascii (h : IsAscii s) (hname : ofUnified? s = some name) : name = s := by
  obtain ⟨-, labels, hlabels, rfl⟩ := ofUnified?_eq_some hname
  have hkept : labels.map Label.ascii = splitAll '.' s := by
    have hparts : ∀ part ∈ splitAll '.' s, IsAscii part := fun part hpart c hc =>
      h c (mem_of_mem_splitAll hpart hc)
    have hall := mapM_eq_some.1 hlabels
    clear hlabels hname
    generalize splitAll '.' s = parts at hparts hall
    induction hall with
    | nil => rfl
    | cons hl _ ih =>
        rw [List.forall_mem_cons] at hparts
        rw [List.map_cons, label?_ascii hparts.1 hl, ih hparts.2]
  rw [hkept, intercalate_splitAll]

/-- A name of such characters is kept as it is, in small letters. -/
theorem toAscii?_of_isNameChar (h : ∀ c ∈ s, IsNameChar c)
    (hname : toAscii? (Percent.decode s) = some name) : name = s.map Char.toLower := by
  have hascii : IsAscii s := fun c hc => (h c hc).1
  have hpercent : '%' ∉ s := fun hmem => absurd (h _ hmem) (by decide)
  have hlower : IsAscii (s.map Char.toLower) := fun c hc => by
    obtain ⟨d, hd, rfl⟩ := List.mem_map.1 hc
    exact (isNameChar_toLower.2 (h d hd)).1
  rw [toAscii?, Percent.decode_ascii hascii hpercent, Utf8.decode?,
    decodeFrom_ascii hascii] at hname
  simp only [Option.bind_eq_bind, Option.bind_some, String.toList_ofList,
    unify?_ascii hascii] at hname
  exact ofUnified?_ascii hlower hname

end Domain

namespace Punycode

theorem isNameChar_digitChar {d : Nat} (h : d < 36) : Domain.IsNameChar (digitChar d) := by
  have hall : ∀ d < 36, Domain.IsNameChar (digitChar d) := by decide
  exact hall d h

theorem isNameChar_of_mem_digits {bias position n : Nat} {c : Char}
    (hc : c ∈ digits bias position n) : Domain.IsNameChar c := by
  have hthreshold (position : Nat) : threshold position bias ≤ 26 := Nat.min_le_left _ _
  fun_induction digits bias position n with
  | case1 position n t hlast =>
      rw [List.mem_singleton.1 hc]
      have := hthreshold position
      exact isNameChar_digitChar (by omega)
  | case2 position n t hmore ih =>
      rcases List.mem_cons.1 hc with rfl | hc
      · have hle : t ≤ 26 := hthreshold position
        have := Nat.mod_lt (n - t) (by omega : 0 < 36 - t)
        exact isNameChar_digitChar (by omega)
      · exact ih hc

/-- Only letters and digits have been written. -/
def Encoder.IsClean (e : Encoder) : Prop := ∀ c ∈ e.output, Domain.IsNameChar c

theorem Encoder.IsClean.pass {e : Encoder} (h : e.IsClean) (code : Nat) (c : Char) :
    (e.pass code c).IsClean := by
  unfold Encoder.pass
  split
  · exact h
  · split
    · exact List.forall_mem_append.2 ⟨h, fun d hd => isNameChar_of_mem_digits hd⟩
    · exact h

theorem Encoder.IsClean.write {e : Encoder} (h : e.IsClean) (s : List Char) (code : Nat)
    (codes : List Nat) : (Encoder.write s e code codes).IsClean := by
  induction codes generalizing e code with
  | nil => exact h
  | cons next codes ih =>
      have hpassed {e : Encoder} (h : e.IsClean) (cs : List Char) :
          (cs.foldl (Encoder.pass next) e).IsClean := by
        induction cs generalizing e with
        | nil => exact h
        | cons c cs ih => exact ih (h.pass next c)
      let e' : Encoder := { e with delta := e.delta + (next - code) * (e.count + 1) }
      let passed := s.foldl (Encoder.pass next) e'
      have hwritten : Encoder.IsClean { passed with delta := passed.delta + 1 } :=
        hpassed (e := e') h s
      exact ih hwritten (next + 1)

theorem isNameChar_of_mem_encode {s : List Char} (h : ∀ c ∈ s, Domain.isForbidden c = false)
    {c : Char} (hc : c ∈ encode s) : Domain.IsNameChar c := by
  have hbasic : ∀ c ∈ s.filter (fun c => c.toNat < firstCode), Domain.IsNameChar c := fun c hc => by
    obtain ⟨hmem, hcode⟩ := List.mem_filter.1 hc
    exact ⟨of_decide_eq_true hcode, h c hmem⟩
  have hclean (e : Encoder) (he : e.output = []) (codes : List Nat) :
      (Encoder.write s e firstCode codes).IsClean :=
    Encoder.IsClean.write (fun c hc => by rw [he] at hc; cases hc) s firstCode codes
  unfold encode at hc
  dsimp only at hc
  split at hc
  · exact hclean _ rfl _ c hc
  · rcases List.mem_append.1 hc with hc | hc
    · exact hbasic c hc
    · rcases List.mem_cons.1 hc with rfl | hc
      · decide
      · exact hclean _ rfl _ c hc

end Punycode

namespace Domain

variable {s name : List Char}

theorem isNameChar_of_label? {l : Label} (h : ∀ c ∈ s, isForbidden c = false)
    (hl : label? s = some l) : ∀ c ∈ l.ascii, IsNameChar c := by
  have hself (hascii : s.all isAscii = true) : ∀ c ∈ s, IsNameChar c := fun c hc =>
    ⟨of_decide_eq_true (List.all_eq_true.1 hascii c hc), h c hc⟩
  unfold label? at hl
  split at hl
  · split at hl
    · rename_i hascii
      obtain ⟨text, -, rfl⟩ := Option.map_eq_some_iff.1 hl
      exact hself hascii
    · cases hl
  · cases hl
    dsimp only
    split
    · rename_i hascii
      exact hself hascii
    · have hmark : encodedMark.all (fun c => decide (IsNameChar c)) = true := by decide
      exact List.forall_mem_append.2
        ⟨by simpa using hmark, fun c hc => Punycode.isNameChar_of_mem_encode h hc⟩

/-- No name has any other characters. -/
theorem isNameChar_of_mem_toAscii? {bytes : Bytes} (h : toAscii? bytes = some name) :
    ∀ c ∈ name, IsNameChar c := by
  simp only [toAscii?, Option.bind_eq_bind, Option.bind_eq_some_iff] at h
  obtain ⟨-, -, s, -, h⟩ := h
  obtain ⟨hallowed, labels, hlabels, rfl⟩ := ofUnified?_eq_some h
  intro c hc
  rcases mem_intercalate hc with rfl | ⟨part, hpart, hc⟩
  · decide
  · obtain ⟨l, hl, rfl⟩ := List.mem_map.1 hpart
    obtain ⟨part, hpart, hlabel⟩ := exists_of_mem_mapM hlabels hl
    exact isNameChar_of_label? (fun d hd => hallowed d (mem_of_mem_splitAll hpart hd)) hlabel c hc

end Domain

end Url

end Depot
