/-!
UTF-8: the bytes of a text, and reading them back either strictly or with a replacement character
for what is not well-formed. Which byte may follow which is kept in `Need`: how many continuation
bytes are missing and between which bounds the next one lies. The bounds exclude overlong forms and
surrogates.
-/

namespace Depot

abbrev Bytes := List UInt8

namespace Text.Utf8

def encode (s : String) : Bytes := s.toList.flatMap String.utf8EncodeChar

/-- A started character: the bits so far, the missing bytes, and the bounds of the next one. -/
structure Need where
  bits : Nat
  missing : Nat
  lo : Nat := 0x80
  hi : Nat := 0xBF

/-- What a first byte begins: a whole character or the need for more. -/
def start (b : Nat) : Option (Char ⊕ Need) :=
  if b < 0x80 then some (.inl (Char.ofNat b))
  else if 0xC2 ≤ b ∧ b ≤ 0xDF then some (.inr { bits := b - 0xC0, missing := 1 })
  else if b = 0xE0 then some (.inr { bits := 0, missing := 2, lo := 0xA0 })
  else if b = 0xED then some (.inr { bits := 0xD, missing := 2, hi := 0x9F })
  else if 0xE1 ≤ b ∧ b ≤ 0xEF then some (.inr { bits := b - 0xE0, missing := 2 })
  else if b = 0xF0 then some (.inr { bits := 0, missing := 3, lo := 0x90 })
  else if 0xF1 ≤ b ∧ b ≤ 0xF3 then some (.inr { bits := b - 0xF0, missing := 3 })
  else if b = 0xF4 then some (.inr { bits := 4, missing := 3, hi := 0x8F })
  else none

/-- A continuation byte, if it fits: the character is complete or needs more. -/
def Need.add (need : Need) (b : Nat) : Option (Char ⊕ Need) :=
  if need.lo ≤ b ∧ b ≤ need.hi then
    let bits := need.bits * 64 + (b - 0x80)
    if need.missing ≤ 1 then some (.inl (Char.ofNat bits))
    else some (.inr { bits, missing := need.missing - 1 })
  else none

/-- The longest well-formed beginning, and whether it is all there is. -/
def decodeFrom : Option Need → Bytes → List Char × Bool
  | none, [] => ([], true)
  | some _, [] => ([], false)
  | need, b :: rest =>
      match (match need with
        | none => start b.toNat
        | some need => need.add b.toNat) with
      | none => ([], false)
      | some (.inr need) => decodeFrom (some need) rest
      | some (.inl c) =>
          let (cs, whole) := decodeFrom none rest
          (c :: cs, whole)

/-- The characters before the first byte that is not well-formed. -/
def decodeStart (bytes : Bytes) : List Char := (decodeFrom none bytes).1

def decode? (bytes : Bytes) : Option String :=
  match decodeFrom none bytes with
  | (cs, true) => some (String.ofList cs)
  | (_, false) => none

def replacement : Char := Char.ofNat 0xFFFD

/-- Characters, and the runs of bytes between them that are not well-formed. A run is a byte that
begins nothing, or a started character that the next byte does not continue. -/
def piecesFrom : Option (Need × Bytes) → Bytes → List (Char ⊕ Bytes)
  | none, [] => []
  | some (_, seen), [] => [.inr seen]
  | none, b :: rest =>
      match start b.toNat with
      | none => .inr [b] :: piecesFrom none rest
      | some (.inl c) => .inl c :: piecesFrom none rest
      | some (.inr need) => piecesFrom (some (need, [b])) rest
  | some (need, seen), b :: rest =>
      match need.add b.toNat with
      | some (.inl c) => .inl c :: piecesFrom none rest
      | some (.inr need) => piecesFrom (some (need, seen ++ [b])) rest
      | none =>
          match start b.toNat with
          | none => .inr seen :: .inr [b] :: piecesFrom none rest
          | some (.inl c) => .inr seen :: .inl c :: piecesFrom none rest
          | some (.inr need) => .inr seen :: piecesFrom (some (need, [b])) rest

/-- One replacement character for each run of bytes that is not well-formed. -/
def repair (bytes : Bytes) : String :=
  String.ofList ((piecesFrom none bytes).map fun
    | .inl c => c
    | .inr _ => replacement)

end Text.Utf8

end Depot
