import Depot.Digest.Hex
import Depot.Digest.Md5
import Depot.Digest.Sha1
import Depot.Http.Header
import Depot.Text.Split

/-!
Checksums that a source announces for a file, and checking data against them.
-/

namespace Depot.Digest

open Http Text

inductive Algorithm
  | sha1
  | md5
deriving DecidableEq, Repr

namespace Algorithm

def name : Algorithm → String
  | sha1 => "sha1"
  | md5 => "md5"

/-- Bytes in a hash of the kind. -/
def size : Algorithm → Nat
  | sha1 => 20
  | md5 => 16

def digest : Algorithm → Bytes → Bytes
  | sha1 => Sha1.digest
  | md5 => Md5.digest

end Algorithm

/-- A hash that data is expected to have; the data arrives in pieces. -/
structure Check where
  algorithm : Algorithm
  expected : Bytes
  data : Bytes := []
deriving Repr

namespace Check

def add (c : Check) (piece : Bytes) : Check := { c with data := c.data ++ piece }

def isValid (c : Check) : Bool := c.algorithm.digest c.data == c.expected

end Check

/-- What is known of a file's hashes. -/
structure Checksums where
  sha1 : Option Bytes := none
  md5 : Option Bytes := none
deriving DecidableEq, Repr, Inhabited

namespace Checksums

def checks (sums : Checksums) : List Check :=
  (sums.sha1.map fun h => { algorithm := .sha1, expected := h }).toList ++
    (sums.md5.map fun h => { algorithm := .md5, expected := h }).toList

/-- The first algorithm whose hash of the data is not the expected one. -/
def mismatch? (sums : Checksums) (data : Bytes) : Option Algorithm :=
  (sums.checks.find? fun c => !(c.add data).isValid).map Check.algorithm

/-- Takes all quotes off both ends. -/
def unquote (s : List Char) : List Char := dropEndWhile (· == '"') (s.dropWhile (· == '"'))

/-- The headers that announce a hash, in order of preference. Servers differ in the names they use;
some send the hash as the quoted tag of the entity. -/
def sha1Names : List String := ["x-checksum-sha1", "x-goog-meta-checksum-sha1", "etag"]

def md5Names : List String := ["x-checksum-md5", "x-goog-meta-checksum-md5"]

/-- The header of the first name that is present. -/
def preferred? (hs : Headers) (names : List String) : Option Header := names.findSome? hs.get?

/-- Only the preferred header of each kind is read. It announces nothing unless it is well-formed. -/
def announced (hs : Headers) : Checksums where
  sha1 := do
    let h ← preferred? hs sha1Names
    let text ← h.text?
    Hex.read? Algorithm.sha1.size (unquote text)
  md5 := do
    let h ← preferred? hs md5Names
    let text ← h.text?
    Hex.read? Algorithm.md5.size text

end Checksums

/-- A file's content and what its source announced about it. -/
structure Blob where
  data : Bytes
  checksums : Checksums := {}
deriving Repr, Inhabited

def Blob.mismatch? (blob : Blob) : Option Algorithm := blob.checksums.mismatch? blob.data

end Depot.Digest
