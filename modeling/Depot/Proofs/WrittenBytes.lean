import Depot.Proofs.WrittenMarkup

/-!
Documents are written in ASCII, so their bytes are read as the characters that they were written
with, whether an encoding is declared or not.
-/

namespace Depot

open Text

namespace Text.Utf8

/-- The bytes of characters of ASCII, one for each. -/
def asciiBytes (s : List Char) : Bytes := s.map fun c => UInt8.ofNat c.toNat

def IsAscii (s : List Char) : Prop := ∀ c ∈ s, c.toNat < 0x80

instance (s : List Char) : Decidable (IsAscii s) := List.decidableBAll _ _

/-- What is true of all characters of ASCII, checked one by one. -/
theorem forall_ascii {P : Char → Prop} (h : ∀ n < 0x80, P (Char.ofNat n)) {c : Char}
    (hc : c.toNat < 0x80) : P c := by
  have hp := h c.toNat hc
  rwa [Char.ofNat_toNat] at hp

theorem asciiBytes_cons (c : Char) (s : List Char) :
    asciiBytes (c :: s) = UInt8.ofNat c.toNat :: asciiBytes s := rfl

theorem toNat_ascii {c : Char} (h : c.toNat < 0x80) : (UInt8.ofNat c.toNat).toNat = c.toNat := by
  rw [UInt8.toNat_ofNat']
  omega

theorem IsAscii.append {s t : List Char} (hs : IsAscii s) (ht : IsAscii t) : IsAscii (s ++ t) :=
  List.forall_mem_append.2 ⟨hs, ht⟩

theorem encode_ascii {s : List Char} (h : IsAscii s) :
    encode (String.ofList s) = asciiBytes s := by
  rw [encode, String.toList_ofList, asciiBytes, ← List.flatMap_pure_eq_map]
  refine List.flatMap_congr fun c hc => ?_
  have hlow : c.val.toNat ≤ 0x7F := Nat.le_of_lt_succ (h c hc)
  unfold String.utf8EncodeChar
  dsimp only
  rw [if_pos hlow]
  rfl

theorem decodeFrom_ascii {s : List Char} (h : IsAscii s) :
    decodeFrom none (asciiBytes s) = (s, true) := by
  induction s with
  | nil => rfl
  | cons c s ih =>
      have hc := h c List.mem_cons_self
      rw [asciiBytes_cons, decodeFrom]
      dsimp only
      rw [toNat_ascii hc, start, if_pos hc, ih fun d hd => h d (List.mem_cons_of_mem _ hd)]
      simp

end Text.Utf8

namespace Markup

open Utf8 (IsAscii asciiBytes)

theorem ascii_of_isSpace {c : Char} (h : isSpace c) : c.toNat < 0x80 := by
  rcases isSpace_iff.1 h with rfl | rfl | rfl | rfl <;> decide

theorem ascii_of_isAlpha {c : Char} (h : c.isAlpha) : c.toNat < 0x80 := by
  have hcode := code_of_isAlpha h
  omega

theorem isAscii_escape {c : Char} (h : '!' ≤ c ∧ c ≤ '~') : IsAscii (escape c) := by
  unfold escape
  split
  · decide
  · decide
  · decide
  · exact List.forall_mem_singleton.2 (Nat.lt_succ_of_le (Nat.le_trans h.2 (by decide)))

theorem isAscii_declaration : IsAscii declaration := by decide

theorem isAscii_of_writes {c : Content} {s : List Char} (h : Writes c s) : IsAscii s := by
  induction h with
  | done h => exact fun d hd => ascii_of_isSpace (h d hd)
  | text h =>
      intro d hd
      obtain ⟨c, hc, hd⟩ := List.mem_flatMap.1 hd
      exact isAscii_escape (h.2 c hc) d hd
  | @element name inner rest blanks s t hblanks hname hinner hrest ihinner ihrest =>
      have hletters : IsAscii name.toList := fun d hd => ascii_of_isAlpha (hname.2 d hd)
      have hstart : IsAscii (startTag name) :=
        .append (s := ['<']) (by decide) (hletters.append (by decide))
      have hend : IsAscii (endTag name) :=
        .append (s := ['<', '/']) (by decide) (hletters.append (by decide))
      have hleading : IsAscii blanks := fun d hd => ascii_of_isSpace (hblanks d hd)
      exact (((hleading.append hstart).append ihinner).append hend).append ihrest

theorem Encoding.ofMark?_ascii {s : List Char} (h : IsAscii s) :
    Encoding.ofMark? (asciiBytes s) = none := by
  -- Every mark begins with a byte that no character of ASCII has.
  have hfirst {b : UInt8} {rest : Bytes} (hmark : asciiBytes s = b :: rest) : b.toNat < 0x80 := by
    cases s with
    | nil => cases hmark
    | cons c s =>
        obtain ⟨rfl, -⟩ := List.cons.inj hmark
        have hc := h c List.mem_cons_self
        exact (Utf8.toNat_ascii hc).symm ▸ hc
  unfold Encoding.ofMark?
  split
  · exact absurd (hfirst ‹_›) (by decide)
  · exact absurd (hfirst ‹_›) (by decide)
  · exact absurd (hfirst ‹_›) (by decide)
  · rfl

theorem Declaration.ofDocument?_declaration (s : List Char) :
    ofDocument? (declaration ++ s) = some ⟨.first, some "UTF-8".toList⟩ := by
  rfl

theorem Declaration.ofDocument?_element {name : String} {inner : Content} {s : List Char}
    (h : Writes (.element (.plain name) [] inner .done) s) : ofDocument? s = none := by
  obtain ⟨blanks, body, rest, rfl, hblanks, hname, -, -⟩ := writes_element_iff.1 h
  have hlead : afterLead? "<?xml".toList (blanks ++ startTag name ++ body ++ endTag name ++ rest) =
      none := by
    refine Option.eq_none_iff_forall_ne_some.2 fun after hafter => ?_
    obtain ⟨c, letters, hletters⟩ := List.exists_cons_of_ne_nil hname.1
    have hxml : "<?xml".toList = ['<', '?', 'x', 'm', 'l'] := rfl
    have heq := afterLead?_eq_some_iff.1 hafter
    rw [startTag, hletters, hxml] at heq
    cases blanks with
    | nil =>
        obtain ⟨-, rfl, -⟩ : '<' = '<' ∧ c = '?' ∧ _ := by
          simpa only [List.nil_append, List.cons_append, List.cons.injEq] using heq
        exact absurd (hname.2 '?' (by rw [hletters]; exact List.mem_cons_self)) (by decide)
    | cons b blanks =>
        obtain ⟨rfl, -⟩ : b = '<' ∧ _ := by
          simpa only [List.cons_append, List.cons.injEq] using heq
        exact absurd (hblanks '<' List.mem_cons_self) (by decide)
  rw [ofDocument?, hlead]
  rfl

theorem Encoding.read_writesDocument {name : String} {inner : Content} {s : List Char}
    (h : WritesDocument name inner s) :
    Encoding.read (Utf8.encode (String.ofList s)) = s := by
  obtain ⟨t, ht, hs⟩ := h
  have hascii : IsAscii s := by
    rcases hs with rfl | rfl
    · exact isAscii_of_writes ht
    · exact isAscii_declaration.append (isAscii_of_writes ht)
  have hutf8 : Encoding.utf8.decode (asciiBytes s) = s := by
    rw [decode, Utf8.decodeStart, Utf8.decodeFrom_ascii hascii]
  rw [Utf8.encode_ascii hascii, Encoding.read, ofMark?_ascii hascii]
  dsimp only
  rw [hutf8]
  rcases hs with rfl | rfl
  · rw [Declaration.ofDocument?_element ht]
    rfl
  · rw [Declaration.ofDocument?_declaration]
    exact hutf8

/-- A document is read into the content that it was written from. -/
theorem Content.ofBytes_writesDocument {name : String} {inner : Content} {s : List Char}
    (h : WritesDocument name inner s) :
    Content.ofBytes (Utf8.encode (String.ofList s)) = .element (.plain name) [] inner .done := by
  rw [Content.ofBytes, Encoding.read_writesDocument h, Content.ofReading_writesDocument h]

end Markup

end Depot
