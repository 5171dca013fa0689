import Depot.Http.Conversation
import Depot.Proofs.Base64
import Depot.Proofs.LayoutNames

/-!
What can stand in a header. Names and passwords are written in letters that can, whatever characters
they consist of.
-/

namespace Depot

open Http Text

/-- There is no control character in the text but the tab. -/
def IsHeaderText (text : String) : Prop :=
  ∀ ch ∈ text.toList, ch = '\t' ∨ 32 ≤ ch.toNat ∧ ch.toNat ≠ 127

theorem Http.Header.isValueByte_iff (b : UInt8) :
    isValueByte b = true ↔ b.toNat = 9 ∨ 32 ≤ b.toNat ∧ b.toNat ≠ 127 := by
  simp [isValueByte, UInt8.le_iff_toNat_le, ← UInt8.toNat_inj]

/-- Bytes of characters outside of ASCII are never in the way. -/
theorem Http.Header.isValue_encode_iff (text : String) :
    isValue (Utf8.encode text) = true ↔ IsHeaderText text := by
  rw [isValue, List.all_eq_true]
  constructor
  · intro h ch hch
    -- A character of ASCII is encoded as itself, and no other byte is below 128.
    by_cases hascii : ch.toNat < 128
    · have hbyte : (UInt8.ofNat ch.toNat).toNat = ch.toNat := by
        rw [UInt8.toNat_ofNat']
        omega
      have hmem : UInt8.ofNat ch.toNat ∈ Utf8.encode text :=
        (Utf8.mem_encode (by omega) hbyte.symm).2 hch
      have hvalid := (isValueByte_iff _).1 (h _ hmem)
      rw [hbyte] at hvalid
      exact hvalid.imp_left fun htab => Char.toNat_inj.1 htab
    · exact .inr ⟨by omega, by omega⟩
  · intro h b hb
    rw [isValueByte_iff]
    by_cases hascii : b.toNat < 128
    · have hchar : (Char.ofNat b.toNat).toNat = b.toNat := by
        have hvalid : b.toNat.isValidChar := .inl (by omega)
        rw [Char.ofNat, dif_pos hvalid]
        rfl
      have hvalid := h _ ((Utf8.mem_encode hascii hchar).1 hb)
      rw [hchar] at hvalid
      exact hvalid.imp_left fun htab => by rw [← hchar, htab]; rfl
    · exact .inr ⟨by omega, by omega⟩

theorem Http.Header.ofParts?_eq_some {name kept : String} {value : Bytes}
    (hname : name? name = some kept) (hvalue : isValue value = true) :
    ofParts? name value = some ⟨kept, value⟩ := by
  rw [ofParts?, hname, hvalue]
  rfl

namespace Credentials

theorem isHeaderText_basic (bytes : Bytes) :
    IsHeaderText ("Basic " ++ Digest.Base64.write bytes) := by
  let printed (ch : Char) : Bool := 32 ≤ ch.toNat ∧ ch.toNat ≠ 127
  have hlead : "Basic ".toList.all printed = true := by decide
  have halphabet : ('=' :: Digest.Base64.alphabet).all printed = true := by decide
  intro ch hch
  rw [String.toList_append, List.mem_append] at hch
  refine .inr (of_decide_eq_true (p := 32 ≤ ch.toNat ∧ ch.toNat ≠ 127) ?_)
  rcases hch with hch | hch
  · exact List.all_eq_true.1 hlead ch hch
  · rw [Digest.Base64.write, String.toList_ofList] at hch
    exact List.all_eq_true.1 halphabet ch (List.mem_cons.2 (Digest.Base64.mem_of_mem_letters hch))

/-- Whatever is proved with an authorization of this form, it can be sent. -/
theorem ofParts?_basic (bytes : Bytes) :
    let value := Utf8.encode ("Basic " ++ Digest.Base64.write bytes)
    Header.ofParts? "authorization" value = some ⟨"authorization", value⟩ := by
  have hname : Header.name? "authorization" = some "authorization" := by decide
  exact Header.ofParts?_eq_some hname ((Header.isValue_encode_iff _).2 (isHeaderText_basic bytes))

theorem authorization?_eq (c : Credentials) : c.authorization? = some c.authorization := by
  have hvalue : Header.isValue c.authorization.value = true := by
    rw [authorization, Header.isValue_encode_iff]
    exact isHeaderText_basic _
  rw [authorization?, if_pos hvalue]

end Credentials

/-- Credentials that can be used can be sent as well. -/
theorem Http.Conversation.negotiate_of_resolved {settings : Settings} {request : Request}
    {lookup : String → Option String} {credentials : Option Credentials} {c : Credentials}
    (h : credentials.bind (Credentials.resolve? lookup) = some c) :
    negotiate settings lookup request credentials =
      (send settings (request.withHeader c.authorization)).bind (askAgain settings request) := by
  rw [negotiate, h]
  dsimp only
  rw [Credentials.authorization?_eq]

end Depot
