import Depot.Cache.Cells
import Depot.Session

/-!
Several callers that ask a cache for values at the same time. For each key one caller computes, in
the order of the calls; the others wait for its value. If a caller is abandoned before its
computation ends, the turn passes to the next one that waits. Computations are conversations: time
passes only while nothing else can happen, and of two events at the same time that of the earlier
call comes first.
-/

namespace Depot.Cache

open Http

variable {κ α : Type} [BEq κ]

structure Call (κ α : Type) where
  key : κ
  computation : Conversation α
  /-- When the caller is abandoned, in milliseconds after the beginning. -/
  patience : Option Nat := none

inductive Status (α : Type) where
  /-- Another caller computes the value. -/
  | waiting
  /-- The computation goes on at this time. -/
  | busy (wake : Nat) (rest : Conversation α)
  | answered (value : α)
  | abandoned

structure Caller (κ α : Type) where
  call : Call κ α
  /-- When the caller is abandoned. -/
  deadline : Option Nat
  status : Status α

namespace Caller

def isBusyWith (key : κ) (c : Caller κ α) : Bool :=
  match c.status with
  | .busy _ _ => c.call.key == key
  | _ => false

def isWaitingFor (key : κ) (c : Caller κ α) : Bool :=
  match c.status with
  | .waiting => c.call.key == key
  | _ => false

def value? (c : Caller κ α) : Option α :=
  match c.status with
  | .answered value => some value
  | _ => none

/-- The time at which something happens to the caller next. -/
def next? (c : Caller κ α) : Option Nat :=
  match c.status with
  | .busy wake _ => some ((c.deadline.map (min wake)).getD wake)
  | .waiting => c.deadline
  | _ => none

end Caller

/-- A computation that ended: whose it was, what for, and with which value. -/
structure Ending (κ α : Type) where
  /-- The position of the caller. -/
  caller : Nat
  key : κ
  value : α

/-- The cells of a cache with its callers, and the computations that ended so far. -/
structure Table (κ α : Type) where
  cells : Cells κ α
  callers : List (Caller κ α) := []
  /-- In the order in which they ended. -/
  endings : List (Ending κ α) := []

namespace Table

/-- The values that are there. -/
def cache (t : Table κ α) : Cache κ α := t.cells.values

def computed (t : Table κ α) : List α := t.endings.map Ending.value

def setStatus (t : Table κ α) (k : Nat) (status : Status α) : Table κ α :=
  { t with callers := t.callers.modify k fun c => { c with status } }

/-- Keeps a computed value and gives it to all that wait for it. -/
def finish (t : Table κ α) (k : Nat) (key : κ) (value : α) : Table κ α :=
  let callers := t.callers.map fun c =>
    if c.isWaitingFor key then { c with status := .answered value } else c
  let endings := t.endings ++ [⟨k, key, value⟩]
  { cells := t.cells.fill key value, callers, endings : Table κ α }.setStatus k (.answered value)

/-- Goes on with a computation until it has to wait or ends. -/
def proceed (t : Table κ α) (k : Nat) (key : κ) : Conversation α → Run (Table κ α)
  | .done value => return t.finish k key value
  | .attempt sent limits next => fun s =>
      let ((ms, outcome), s') := s.contact sent limits
      (t.setStatus k (.busy (s.clock + ms) (next outcome)), s')
  | .pause ms next => fun s => (t.setStatus k (.busy (s.clock + ms) next), s)

/-- Adds a caller, whose key has a cell from now on. -/
def add (t : Table κ α) (c : Caller κ α) : Table κ α :=
  { t with cells := t.cells.withCell c.call.key, callers := t.callers ++ [c] }

theorem cache_add (t : Table κ α) (c : Caller κ α) : (t.add c).cache = t.cache :=
  Cells.values_withCell t.cells c.call.key

theorem cache_finish (t : Table κ α) (k : Nat) (key : κ) (value : α) :
    (t.finish k key value).cache = t.cache.put key value :=
  Cells.values_fill t.cells key value

theorem get?_cells (t : Table κ α) (key : κ) : t.cells.get? key = t.cache.get? key :=
  (Cells.get?_values t.cells key).symm

/-- Takes up a call: the value is there, being computed, or to be computed now. -/
def enter (t : Table κ α) (call : Call κ α) : Run (Table κ α) := fun s =>
  let deadline := call.patience.map (s.clock + ·)
  let k := t.callers.length
  match t.cells.get? call.key with
  | some value => (t.add ⟨call, deadline, .answered value⟩, s)
  | none =>
      let t' := t.add ⟨call, deadline, .waiting⟩
      if t.callers.any (Caller.isBusyWith call.key) then (t', s)
      else t'.proceed k call.key call.computation s

/-- The caller to whom something happens first, and when. -/
def next? (t : Table κ α) : Option (Nat × Caller κ α × Nat) :=
  t.callers.zipIdx.foldl (fun best (c, k) =>
    match c.next?, best with
    | none, _ => best
    | some time, none => some (k, c, time)
    | some time, some (_, _, least) => if time < least then some (k, c, time) else best) none

/-- Passes the turn for a key to the first caller that waits for it. -/
def passTurn (t : Table κ α) (key : κ) : Run (Table κ α) :=
  match t.callers.zipIdx.find? fun (c, _) => c.isWaitingFor key with
  | none => pure t
  | some (c, k) => t.proceed k key c.call.computation

/-- What happens to a caller when its time has come. -/
def happen (t : Table κ α) (k : Nat) (c : Caller κ α) (time : Nat) : Run (Table κ α) :=
  match c.status with
  | .busy wake rest =>
      if wake ≤ time then t.proceed k c.call.key rest
      else (t.setStatus k .abandoned).passTurn c.call.key
  | .waiting => pure (t.setStatus k .abandoned)
  | _ => pure t

/-- Lets events happen in their order, at most as many as the number says. -/
def settle : Nat → Table κ α → Run (Table κ α)
  | 0, t => pure t
  | steps + 1, t =>
      match t.next? with
      | none => pure t
      | some (k, c, time) => do
          modify fun s => { s with clock := max s.clock time }
          settle steps (← t.happen k c time)

end Table

/-- Starts all calls together and goes on until each caller has a value or is abandoned. No
computation may have to wait more often than the number says. -/
def Cells.compute (waits : Nat) (cells : Cells κ α) (calls : List (Call κ α)) :
    Run (Table κ α) := do
  let t ← calls.foldlM Table.enter { cells }
  t.settle (calls.length * (waits + 1))

/-- Likewise, where no cell is empty. -/
def compute (waits : Nat) (cache : Cache κ α) (calls : List (Call κ α)) : Run (Table κ α) :=
  (Cells.ofCache cache).compute waits calls

end Depot.Cache
