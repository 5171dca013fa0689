import Depot.Digest.Base64

/-!
Letters that bytes are written in. They are from the alphabet or fill up the end.
-/

namespace Depot.Digest.Base64

theorem letter_mem_alphabet (n : Nat) : letter n ∈ alphabet := by
  have hlt : n % 64 < alphabet.length := Nat.mod_lt n (by decide)
  rw [letter, List.getD_eq_getElem?_getD, List.getElem?_eq_getElem hlt, Option.getD_some]
  exact List.getElem_mem hlt

theorem mem_of_mem_letters {bytes : Bytes} {c : Char} (h : c ∈ letters bytes) :
    c = '=' ∨ c ∈ alphabet := by
  fun_induction letters bytes with
  | case1 => cases h
  | case2 a n =>
      simp only [List.mem_cons, List.not_mem_nil, or_false] at h
      rcases h with rfl | rfl | rfl | rfl <;> simp [letter_mem_alphabet]
  | case3 a b n =>
      simp only [List.mem_cons, List.not_mem_nil, or_false] at h
      rcases h with rfl | rfl | rfl | rfl <;> simp [letter_mem_alphabet]
  | case4 a b c rest n ih =>
      simp only [List.mem_cons] at h
      rcases h with rfl | rfl | rfl | rfl | h
      · exact .inr (letter_mem_alphabet _)
      · exact .inr (letter_mem_alphabet _)
      · exact .inr (letter_mem_alphabet _)
      · exact .inr (letter_mem_alphabet _)
      · exact ih h

end Depot.Digest.Base64
