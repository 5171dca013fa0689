import Depot.Proofs.Settling

/-!
The life of a cache, from the empty one on: looks at it, and batches of calls that are made
together, some of whose callers may be abandoned. For each key at most one computation ends, and its
value is what everybody gets from then on.
-/

namespace Depot.Cache

open Http

variable {κ α : Type}

/-- Calls that are made together, and how often their computations have to wait at most. -/
structure Batch (κ α : Type) where
  calls : List (Call κ α)
  waits : Nat
  bounded : ∀ call ∈ calls, call.computation.WaitsAtMost waits

/-- A use of a cache. What the world is like is said for each batch. -/
inductive Use (κ α : Type) where
  | get (key : κ)
  | batch (b : Batch κ α) (s : Session)
  /-- After so many events all callers are abandoned together. -/
  | brokenOff (b : Batch κ α) (s : Session) (events : Nat)

/-- The cells of a cache, and the computations that ended so far. -/
structure History (κ α : Type) where
  cells : Cells κ α := []
  endings : List (Ending κ α) := []

namespace History

def cache (h : History κ α) : Cache κ α := h.cells.values

def goOn (h : History κ α) (t : Table κ α) : History κ α :=
  { cells := t.cells, endings := h.endings ++ t.endings }

/-- What is in the cache is what computations ended with, and no key is there twice. -/
structure IsKept (h : History κ α) : Prop where
  cache : h.cache = h.endings.map Ending.entry
  distinct : (h.cache.map Prod.fst).Nodup

/-- A cache only grows, and by what computations end with. -/
theorem IsKept.goOn {h : History κ α} (hkept : h.IsKept) {t : Table κ α}
    (ht : t.Accounts h.cache) : (h.goOn t).IsKept ∧ h.cache <+: (h.goOn t).cache := by
  refine ⟨⟨?_, ht.distinct⟩, _, ht.cache.symm⟩
  calc
    t.cache = h.cache ++ t.endings.map Ending.entry := ht.cache
    _ = (h.endings ++ t.endings).map Ending.entry := by rw [List.map_append, ← hkept.cache]

end History

theorem Caller.next?_of_busy {c : Caller κ α} {wake : Nat} {rest : Conversation α}
    (h : c.status = .busy wake rest) : c.next? ≠ none := by
  rw [Caller.next?, h]
  exact Option.some_ne_none _

variable [BEq κ]

def Batch.run (b : Batch κ α) (cells : Cells κ α) : Run (Table κ α) :=
  cells.compute b.waits b.calls

/-- The calls are taken up, and so many events have happened since. -/
def Batch.after (b : Batch κ α) (cells : Cells κ α) (events : Nat) : Run (Table κ α) := do
  (← b.calls.foldlM Table.enter { cells }).settle events

namespace History

def add (h : History κ α) : Use κ α → History κ α
  | .get _ => h
  | .batch b s => h.goOn (b.run h.cells s).1
  | .brokenOff b s events => h.goOn (b.after h.cells events s).1

def of (uses : List (Use κ α)) : History κ α := uses.foldl add {}

end History

theorem Table.start_isOrderly {cells : Cells κ α} (hcells : (cells.values.map Prod.fst).Nodup)
    (now : Nat) : Table.IsOrderly cells.values now { cells } := by
  refine ⟨fun key => ?_, ⟨hcells, (List.append_nil cells.values).symm, nofun, nofun⟩, nofun⟩
  cases hvalue : cells.values.get? key with
  | none => exact .vacant hvalue nofun
  | some value => exact .stored value hvalue nofun

/-- When nothing happens any more, everybody has the value or was abandoned. -/
theorem Table.IsOrderly.settled {before : Cache κ α} {now : Nat} {t : Table κ α}
    (h : t.IsOrderly before now) (hnext : t.next? = none) {c : Caller κ α} (hc : c ∈ t.callers) :
    (∃ value, c.status = .answered value ∧ t.cache.get? c.call.key = some value) ∨
      c.status = .abandoned := by
  obtain ⟨k, hk⟩ := List.mem_iff_getElem?.1 hc
  rcases (h.phase c.call.key).standing hk with hgone | hanswered | ⟨⟨wake, rest, hbusy⟩, -⟩ |
    ⟨-, l, d, wake, rest, hturn, -, hbusy⟩
  · exact .inr hgone
  · exact .inl hanswered
  · exact absurd (next?_eq_none hnext hc) (Caller.next?_of_busy hbusy)
  · exact absurd (next?_eq_none hnext (List.mem_of_getElem? hturn.caller)) (Caller.next?_of_busy hbusy)

variable [LawfulBEq κ]

namespace Batch

variable (b : Batch κ α) {cells : Cells κ α} (s : Session)

theorem after_isOrderly (hcells : (cells.values.map Prod.fst).Nodup) (events : Nat) :
    (b.after cells events s).1.IsOrderly cells.values (b.after cells events s).2.clock ∧
      (b.after cells events s).1.roster =
        b.calls.map fun call => (call, call.patience.map (s.clock + ·)) := by
  obtain ⟨hentered, hclock⟩ := Table.enter_induction
    (motive := fun done t => t.IsOrderly cells.values s.clock ∧
      t.roster = done.map fun call => (call, call.patience.map (s.clock + ·)))
    b.calls [] { cells } s rfl ⟨Table.start_isOrderly hcells s.clock, rfl⟩ (by
      rintro call - done t t' ⟨ht, hroster⟩ henters
      refine ⟨ht.enters henters, ?_⟩
      rw [henters.roster, hroster, List.map_append, List.map_singleton])
  refine Table.settle_induction (motive := fun t now => t.IsOrderly cells.values now ∧
    t.roster = b.calls.map fun call => (call, call.patience.map (s.clock + ·))) ?_ events ?_
  · rintro t now k c time t' ⟨ht, hroster⟩ hk hnext hhappens
    exact ⟨ht.happens hk hnext (Nat.le_max_left ..) (Nat.le_max_right ..) hhappens,
      hhappens.roster.trans hroster⟩
  · rw [hclock]
    exact hentered

theorem run_isOrderly (hcells : (cells.values.map Prod.fst).Nodup) :
    (b.run cells s).1.IsOrderly cells.values (b.run cells s).2.clock ∧
      (b.run cells s).1.roster =
        b.calls.map fun call => (call, call.patience.map (s.clock + ·)) :=
  b.after_isOrderly s hcells _

theorem run_calls (hcells : (cells.values.map Prod.fst).Nodup) :
    (b.run cells s).1.callers.map Caller.call = b.calls := by
  have hroster := congrArg (List.map Prod.fst) (b.run_isOrderly s hcells).2
  simpa [Table.roster, Function.comp_def] using hroster

theorem run_next? : (b.run cells s).1.next? = none := by
  obtain ⟨⟨n, hn, hend⟩, -⟩ := Table.enter_induction
    (motive := fun done t => ∃ n ≤ done.length * (b.waits + 1), EndWithin t.callers n)
    b.calls [] { cells } s rfl ⟨0, Nat.zero_le _, .nil⟩ (by
      rintro call hcall done t t' ⟨n, hn, hend⟩ henters
      obtain ⟨m, hm, hend⟩ := henters.endWithin hend (b.bounded call hcall)
      refine ⟨m, ?_, hend⟩
      rw [List.length_append, List.length_singleton, Nat.succ_mul]
      omega)
  exact Table.settle_finishes hend hn _

/-- Everybody gets the value for the key, or is abandoned after having waited as long as it
would. -/
theorem run_caller (hcells : (cells.values.map Prod.fst).Nodup) {c : Caller κ α}
    (hc : c ∈ (b.run cells s).1.callers) :
    (∃ value, c.status = .answered value ∧
      (b.run cells s).1.cache.get? c.call.key = some value) ∨
    c.status = .abandoned ∧
      ∃ ms, c.call.patience = some ms ∧ s.clock + ms ≤ (b.run cells s).2.clock := by
  obtain ⟨horderly, hroster⟩ := b.run_isOrderly s hcells
  rcases horderly.settled (b.run_next? s) hc with hanswered | hgone
  · exact .inl hanswered
  · refine .inr ⟨hgone, ?_⟩
    have hmem : (c.call, c.deadline) ∈ (b.run cells s).1.roster :=
      List.mem_map_of_mem (f := fun c : Caller κ α => (c.call, c.deadline)) hc
    rw [hroster] at hmem
    obtain ⟨call, -, heq⟩ := List.mem_map.1 hmem
    obtain ⟨rfl, hdeadline⟩ := Prod.mk.inj heq
    obtain ⟨k, hk⟩ := List.mem_iff_getElem?.1 hc
    obtain ⟨deadline, hd, hle⟩ := horderly.expired k c hk hgone
    rw [hd] at hdeadline
    obtain ⟨ms, hms, rfl⟩ := Option.map_eq_some_iff.1 hdeadline
    exact ⟨ms, hms, hle⟩

end Batch

/-- What comes of it when a caller is abandoned while it computes. -/
structure Table.Drops (t : Table κ α) (k : Nat) (c : Caller κ α) (t' : Table κ α) : Prop where
  gone : t'.callers[k]? = some { c with status := .abandoned }
  others : ∀ key ≠ c.call.key, Table.Agrees key t t'
  alone : (∀ d ∈ t.callers, ¬ d.isWaitingFor c.call.key) →
    t'.cache = t.cache ∧ t'.endings = t.endings
  /-- The first one that waits begins its own computation, which may end at once. -/
  turn : ∀ (j : Nat) (d : Caller κ α), t.IsFirstWaiting c.call.key j d →
    (∃ wake rest, d.call.computation.Leaves rest ∧
      t'.callers[j]? = some { d with status := .busy wake rest } ∧
      t'.cache = t.cache ∧ t'.endings = t.endings) ∨
    ∃ value, d.call.computation = .done value ∧
      t'.callers[j]? = some { d with status := .answered value } ∧
      t'.endings = t.endings ++ [⟨j, c.call.key, value⟩]

omit [LawfulBEq κ] in
theorem Table.IsFirstWaiting.unique {t : Table κ α} {key : κ} {i j : Nat} {c d : Caller κ α}
    (hi : t.IsFirstWaiting key i c) (hj : t.IsFirstWaiting key j d) : i = j ∧ c = d := by
  obtain rfl : i = j := Nat.le_antisymm (hi.first j d hj.caller hj.waits)
    (hj.first i c hi.caller hi.waits)
  exact ⟨rfl, Option.some.inj (hi.caller.symm.trans hj.caller)⟩

theorem Table.drops_happen {t : Table κ α} {k : Nat} {c : Caller κ α} {wake time : Nat}
    {rest : Conversation α} (hk : t.callers[k]? = some c) (hbusy : c.status = .busy wake rest)
    (htime : time < wake) (s : Session) : t.Drops k c (t.happen k c time s).1 := by
  have hgone : (t.setStatus k .abandoned).callers[k]? = some { c with status := .abandoned } := by
    rw [getElem?_setStatus, hk, Option.map_some, if_pos rfl]
  have hhappens := happens_happen hk time s
  generalize (t.happen k c time s).1 = t' at hhappens
  have hothers : ∀ key ≠ c.call.key, Agrees key t t' := fun key => hhappens.agrees hk
  cases hhappens with
  | goesOn hbusy' hwake _ =>
      cases hbusy.symm.trans hbusy'
      omega
  | leaves _ _ hnone =>
      refine ⟨hgone, hothers, fun _ => ⟨rfl, rfl⟩, fun j d hfirst => ?_⟩
      exact absurd hfirst.waits (hnone d (List.mem_of_getElem? hfirst.caller))
  | @passes _ _ j d _ _ _ hfirst hproceeds =>
      obtain ⟨hwaits, -⟩ := Caller.isWaitingFor_iff.1 hfirst.waits
      have hj := hfirst.abandon hk hbusy
      have hjk : j ≠ k := by
        rintro rfl
        cases hgone.symm.trans hj
        cases hwaits
      refine ⟨?_, hothers, fun hnone => ?_, fun i e he => ?_⟩
      · cases hproceeds with
        | ends value _ =>
            rw [getElem?_finish, hgone, Option.map_some, if_neg]
            rw [Caller.isWaitingFor_iff]
            rintro (rfl | ⟨hwaits, -⟩)
            · exact hjk rfl
            · cases hwaits
        | waits _ _ _ => rw [getElem?_setStatus, hgone, Option.map_some, if_neg hjk]
      · exact absurd hfirst.waits (hnone d (List.mem_of_getElem? hfirst.caller))
      · obtain ⟨rfl, rfl⟩ := he.unique hfirst
        cases hproceeds with
        | ends value hdone =>
            refine .inr ⟨value, hdone, ?_, rfl⟩
            rw [getElem?_finish, hj, Option.map_some, if_pos (.inl rfl)]
        | waits wake rest hleaves =>
            refine .inl ⟨wake, rest, hleaves, ?_, rfl, rfl⟩
            rw [getElem?_setStatus, hj, Option.map_some, if_pos rfl]
  | givesUp hwaits => cases hbusy.symm.trans hwaits
  | stays hnone => exact absurd hnone (Caller.next?_of_busy hbusy)

namespace History

omit [LawfulBEq κ] in
theorem of_append (uses more : List (Use κ α)) : of (uses ++ more) = more.foldl add (of uses) :=
  List.foldl_append

theorem IsKept.add {h : History κ α} (hkept : h.IsKept) (use : Use κ α) :
    (h.add use).IsKept ∧ h.cache <+: (h.add use).cache := by
  cases use with
  | get key => exact ⟨hkept, List.prefix_rfl⟩
  | batch b s => exact hkept.goOn (b.run_isOrderly s hkept.distinct).1.accounts
  | brokenOff b s events => exact hkept.goOn (b.after_isOrderly s hkept.distinct events).1.accounts

theorem isKept_of (uses : List (Use κ α)) : (of uses).IsKept :=
  List.foldlRecOn (motive := IsKept) uses add ⟨rfl, List.nodup_nil⟩ fun _ hkept use _ =>
    (hkept.add use).1

theorem cache_isPrefix_append (uses more : List (Use κ α)) :
    (of uses).cache <+: (of (uses ++ more)).cache := by
  rw [of_append]
  refine (List.foldlRecOn (motive := fun h => h.IsKept ∧ (of uses).cache <+: h.cache) more add
    ⟨isKept_of uses, List.prefix_rfl⟩ ?_).2
  rintro h ⟨hkept, hprefix⟩ use -
  exact ⟨(hkept.add use).1, hprefix.trans (hkept.add use).2⟩

theorem IsKept.get?_eq_some_iff {h : History κ α} (hkept : h.IsKept) (key : κ) (value : α) :
    h.cache.get? key = some value ↔ ∃ e ∈ h.endings, e.key = key ∧ e.value = value := by
  rw [get?_eq_some_iff_mem hkept.distinct, hkept.cache, List.mem_map]
  simp only [Ending.entry, Prod.mk.injEq]

end History

/-- What can be relied on after these uses of a cache that was empty before. -/
structure ComputesOnce (uses : List (Use κ α)) : Prop where
  /-- For no key did more than one computation end. -/
  once : ((History.of uses).endings.map Ending.key).Nodup
  get?_eq_some_iff : ∀ key value, (History.of uses).cells.get? key = some value ↔
    ∃ e ∈ (History.of uses).endings, e.key = key ∧ e.value = value
  size_eq : (History.of uses).cells.size = ((History.of uses).endings.map Ending.key).length
  stays : ∀ more key value, (History.of uses).cells.get? key = some value →
    (History.of (uses ++ more)).cells.get? key = some value
  calls : ∀ (b : Batch κ α) s,
    (b.run (History.of uses).cells s).1.callers.map Caller.call = b.calls
  /-- At any moment of a batch, whoever has a value has that of the one computation that ended. -/
  received : ∀ (b : Batch κ α) s events, ∀ c ∈ (b.after (History.of uses).cells events s).1.callers,
    ∀ value, c.status = .answered value →
    ∃ e ∈ (History.of (uses ++ [.brokenOff b s events])).endings,
      e.key = c.call.key ∧ e.value = value
  /-- In the end everybody has it, or was abandoned when its time was over. -/
  answered : ∀ (b : Batch κ α) s, ∀ c ∈ (b.run (History.of uses).cells s).1.callers,
    (∃ e ∈ (History.of (uses ++ [.batch b s])).endings,
      e.key = c.call.key ∧ c.status = .answered e.value) ∨
    c.status = .abandoned ∧ ∃ ms, c.call.patience = some ms ∧
      s.clock + ms ≤ (b.run (History.of uses).cells s).2.clock
  /-- Computations that end are those of callers that get their value, not of abandoned ones. -/
  owner : ∀ (b : Batch κ α) s, ∀ e ∈ (b.run (History.of uses).cells s).1.endings,
    ∃ c, (b.run (History.of uses).cells s).1.callers[e.caller]? = some c ∧ c.HasEnded e
  /-- At any moment of a batch, whoever computes can be abandoned. -/
  dropped : ∀ (b : Batch κ α) s events k c wake rest time,
    (b.after (History.of uses).cells events s).1.callers[k]? = some c →
    c.status = .busy wake rest → time < wake → ∀ later,
    (b.after (History.of uses).cells events s).1.Drops k c
      ((b.after (History.of uses).cells events s).1.happen k c time later).1

theorem computesOnce (uses : List (Use κ α)) : ComputesOnce uses := by
  have hkept := History.isKept_of uses
  have hkeys : (History.of uses).cache.map Prod.fst = (History.of uses).endings.map Ending.key := by
    rw [hkept.cache, List.map_map]
    rfl
  constructor
  case once => exact hkeys ▸ hkept.distinct
  case get?_eq_some_iff =>
    intro key value
    rw [← Cells.get?_values]
    exact hkept.get?_eq_some_iff key value
  case size_eq =>
    rw [← hkeys, List.length_map]
    exact (Cells.size_values _).symm
  case stays =>
    intro more key value hvalue
    rw [← Cells.get?_values] at hvalue ⊢
    exact (History.cache_isPrefix_append uses more).lookup_eq_some hvalue
  case calls =>
    intro b s
    exact b.run_calls s hkept.distinct
  case received =>
    intro b s events c hc value hanswered
    obtain ⟨k, hk⟩ := List.mem_iff_getElem?.1 hc
    have horderly := (b.after_isOrderly s hkept.distinct events).1
    have hvalue := (horderly.phase c.call.key).get?_of_answered hk hanswered
    have hcache : (b.after (History.of uses).cells events s).1.cache =
        (History.of (uses ++ [.brokenOff b s events])).cache := by
      rw [History.of_append]
      rfl
    rwa [hcache, (History.isKept_of _).get?_eq_some_iff] at hvalue
  case answered =>
    intro b s c hc
    refine (b.run_caller s hkept.distinct hc).imp ?_ id
    rintro ⟨value, hanswered, hvalue⟩
    have hcache : (b.run (History.of uses).cells s).1.cache =
        (History.of (uses ++ [.batch b s])).cache := by
      rw [History.of_append]
      rfl
    rw [hcache, (History.isKept_of _).get?_eq_some_iff] at hvalue
    obtain ⟨e, he, hkey, rfl⟩ := hvalue
    exact ⟨e, he, hkey, hanswered⟩
  case owner =>
    intro b s
    exact (b.run_isOrderly s hkept.distinct).1.accounts.owner
  case dropped =>
    intro b s events k c wake rest time hk hbusy htime later
    exact Table.drops_happen hk hbusy htime later

/-- Two callers ask for one value and a third one for another. The first caller is abandoned before
its computation ends, and so is somebody who asks for one more value later. -/
def handover : List (Use Nat Nat) :=
  [.batch
    { calls :=
        [{ key := 1, computation := .pause 1000 (.done 7), patience := some 10 },
          { key := 1, computation := .pause 50 (.done 8) },
          { key := 2, computation := .pause 20 (.done 9) }]
      waits := 1
      bounded := by simp [Conversation.WaitsAtMost] } {},
    .get 1,
    .brokenOff
      { calls := [{ key := 3, computation := .pause 40 (.done 6) }]
        waits := 1
        bounded := by simp [Conversation.WaitsAtMost] } {} 0]

theorem computesOnce_handover :
    ComputesOnce handover ∧ (History.of handover).cache = [(2, 9), (1, 8)] ∧
      (History.of handover).cells = [(2, some 9), (1, some 8), (3, none)] :=
  ⟨computesOnce handover, rfl, rfl⟩

end Depot.Cache
