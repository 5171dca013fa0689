import Depot.Text.Natural
import Depot.Text.Split

/-!
Versions of artifacts. A version is a release, a floating snapshot that stands for the newest build
of its base, or one such build with its timestamp and number.
-/

namespace Depot

open Text

def snapshotTail : String := "-SNAPSHOT"

inductive Version
  | release (text : String)
  /-- The text is `base` with the snapshot tail. -/
  | snapshot (base : String)
  /-- For instance base 2020.0.2, timestamp 20210127.131051 and number 2. -/
  | build (base timestamp : String) (number : UInt32)
deriving DecidableEq, Repr, Inhabited

namespace Version

/-- Eight digits, a dot and six digits, of any script. -/
def isTimestamp (s : List Char) : Bool :=
  match s.drop 8 with
  | '.' :: time =>
      (s.take 8).all isDecimalDigit && time.length == 6 && time.all isDecimalDigit
  | _ => false

/-- A build number, if it consists of the digits '0' to '9' and is in range. -/
def buildNumber? (s : List Char) : Option UInt32 :=
  if s.all isDecimalDigit then
    match Natural.read UInt32.size s with
    | .ok n => some (UInt32.ofNat n)
    | .error _ => none
  else none

/-- Takes base, timestamp and number apart. The base has no line break and is not empty. -/
def build? (s : List Char) : Option Version := do
  let (front, number) ← splitLast '-' s
  let (base, timestamp) ← splitLast '-' front
  guard (!base.isEmpty && !base.contains '\n' && isTimestamp timestamp)
  let number ← buildNumber? number
  return .build (String.ofList base) (String.ofList timestamp) number

theorem build?_eq_some {s : List Char} {v : Version} (h : build? s = some v) :
    ∃ front digits base timestamp number, splitLast '-' s = some (front, digits) ∧
      splitLast '-' front = some (base, timestamp) ∧
      v = .build (String.ofList base) (String.ofList timestamp) number := by
  obtain ⟨⟨front, digits⟩, hfront, h⟩ := Option.bind_eq_some_iff.1 h
  obtain ⟨⟨base, timestamp⟩, hbase, h⟩ := Option.bind_eq_some_iff.1 h
  obtain ⟨-, -, h⟩ := Option.bind_eq_some_iff.1 h
  obtain ⟨number, -, h⟩ := Option.bind_eq_some_iff.1 h
  cases h
  exact ⟨front, digits, base, timestamp, number, hfront, hbase, rfl⟩

def ofString (s : String) : Version :=
  match beforeTail? snapshotTail.toList s.toList with
  | some base => .snapshot (String.ofList base)
  | none => (build? s.toList).getD (.release s)

def text : Version → String
  | release s => s
  | snapshot base => base ++ snapshotTail
  | build base timestamp number => base ++ "-" ++ timestamp ++ "-" ++ Natural.write number.toNat

def isSnapshot : Version → Bool
  | release _ => false
  | _ => true

/-- The name of the version's directory. All builds of a snapshot share one. -/
def directory : Version → String
  | release s => s
  | snapshot base | build base _ _ => base ++ snapshotTail

/-- The version without snapshot tail or build. -/
def base : Version → String
  | release s => s
  | snapshot base | build base _ _ => base

end Version

end Depot
