import Depot.Proofs.ComputeOnce
import Depot.Proofs.FirstCome

/-!
Calls that are made together in a steady world, by callers that are not abandoned. A computation
begins only for the first call of a key, and it ends with what it would end with alone. So whichever
order events happen in, each key gets the value that it would get if the calls were made one after
the other.
-/

namespace Depot.Cache

open Http Run

variable {κ α : Type}

/-- Every value that is there, and every value that a computation is about to end with in this
network, is the one that is expected for its key. -/
structure Table.Follows (n : Network) (expected : κ → Option α) (t : Table κ α) : Prop where
  cache : ∀ p ∈ t.cache, expected p.1 = some p.2
  rest : ∀ (j : Nat) (c : Caller κ α) (wake : Nat) (rest : Conversation α),
    t.callers[j]? = some c → c.status = .busy wake rest →
    expected c.call.key = some (rest.endIn n)

/-- Nobody is ever abandoned. -/
def Table.IsPatient (t : Table κ α) : Prop := ∀ c ∈ t.callers, c.deadline = none

namespace Table

variable {n : Network} {expected : κ → Option α} {t : Table κ α} {k : Nat}

theorem Follows.setBusy (h : t.Follows n expected) {key : κ} (hk : t.Asks k key) {wake : Nat}
    {rest : Conversation α} (hrest : expected key = some (rest.endIn n)) :
    (t.setStatus k (.busy wake rest)).Follows n expected := by
  refine ⟨h.cache, fun j d wake' rest' hd hbusy => ?_⟩
  rcases setStatus_cases hd with ⟨-, c, hc, rfl⟩ | ⟨-, hd⟩
  · rw [← (Status.busy.inj hbusy).2, hk c hc]
    exact hrest
  · exact h.rest j d wake' rest' hd hbusy

theorem Follows.add [BEq κ] (h : t.Follows n expected) {c : Caller κ α}
    (hc : ∀ wake rest, c.status ≠ .busy wake rest) : (t.add c).Follows n expected := by
  refine ⟨by rw [cache_add]; exact h.cache, fun j d wake rest hd hbusy => ?_⟩
  rcases getElem?_add.1 hd with hd | ⟨-, rfl⟩
  · exact h.rest j d wake rest hd hbusy
  · exact absurd hbusy (hc wake rest)

theorem isPatient_iff : t.IsPatient ↔ ∀ p ∈ t.roster, p.2 = none := by
  simp [IsPatient, roster]

variable [BEq κ]

theorem Follows.finish (h : t.Follows n expected) {key : κ} {value : α}
    (hvalue : expected key = some value) : (t.finish k key value).Follows n expected := by
  refine ⟨fun p hp => ?_, fun j d wake rest hd hbusy => ?_⟩
  · rcases mem_put (cache_finish t k key value ▸ hp) with hp | rfl
    · exact h.cache p hp
    · exact hvalue
  · rcases finish_cases hd with hgiven | ⟨-, -, hd⟩
    · rw [hgiven] at hbusy
      cases hbusy
    · exact h.rest j d wake rest hd hbusy

theorem proceed_follows (hn : n.IsSteady) (h : t.Follows n expected) {key : κ}
    (hk : t.Asks k key) {c : Conversation α} (hc : expected key = some (c.endIn n)) :
    Keeps (fun s => s.network = n) (t.proceed k key c) (Follows n expected) := by
  rintro s rfl
  cases c with
  | done value => exact ⟨rfl, h.finish hc⟩
  | attempt sent limits next =>
      have hend : (Conversation.attempt sent limits next).endIn s.network =
          (next (s.contact sent limits).1.2).endIn s.network := by
        rw [Session.outcome_contact hn]
        rfl
      exact ⟨s.network_contact sent limits, h.setBusy hk (hc.trans (congrArg some hend))⟩
  | pause ms next => exact ⟨rfl, h.setBusy hk hc⟩

/-- Of a caller that is not abandoned the computation goes on whenever something happens to it. -/
theorem happen_follows (hn : n.IsSteady) (h : t.Follows n expected) {c : Caller κ α} {time : Nat}
    (hk : t.callers[k]? = some c) (hpatient : c.deadline = none) (hnext : c.next? = some time) :
    Keeps (fun s => s.network = n) (t.happen k c time) (Follows n expected) := by
  unfold happen
  unfold Caller.next? at hnext
  split
  · rename_i wake rest hbusy
    simp only [hbusy, hpatient, Option.map_none, Option.getD_none, Option.some.injEq] at hnext
    rw [if_pos (Nat.le_of_eq hnext)]
    exact proceed_follows hn h (asks_of_getElem? hk) (h.rest k c wake rest hk hbusy)
  · rename_i hwaits
    simp [hwaits, hpatient] at hnext
  · exact Keeps.pure h

theorem settle_follows [LawfulBEq κ] (hn : n.IsSteady) (steps : Nat) (h : t.Follows n expected)
    (hpatient : t.IsPatient) :
    Keeps (fun s => s.network = n) (t.settle steps) (Follows n expected) := by
  induction steps generalizing t with
  | zero => exact Keeps.pure h
  | succ steps ih =>
      intro s hs
      cases hnext : t.next? with
      | none =>
          rw [settle_of_next?_none hnext]
          exact ⟨hs, h⟩
      | some first =>
          obtain ⟨k, c, time⟩ := first
          obtain ⟨hk, hc⟩ := next?_eq_some hnext
          have hmoved := happen_follows hn h hk (hpatient c (List.mem_of_getElem? hk)) hc
            { s with clock := max s.clock time } hs
          have hroster := (happens_happen hk time { s with clock := max s.clock time }).roster
          rw [settle_succ hnext]
          exact ih hmoved.2 (isPatient_iff.2 (hroster ▸ isPatient_iff.1 hpatient)) _ hmoved.1

theorem enter_follows (hn : n.IsSteady) (h : t.Follows n expected) {call : Call κ α}
    (hcall : t.cache.get? call.key = none → ¬ t.callers.any (Caller.isBusyWith call.key) →
      expected call.key = some (call.computation.endIn n)) :
    Keeps (fun s => s.network = n) (t.enter call) (Follows n expected) := by
  intro s hs
  unfold enter
  split
  · exact ⟨hs, h.add nofun⟩
  · rename_i habsent
    rw [get?_cells] at habsent
    have hwaiting : Follows n expected
        (t.add ⟨call, call.patience.map (s.clock + ·), .waiting⟩) := h.add nofun
    split
    · exact ⟨hs, hwaiting⟩
    · rename_i hidle
      have hnew := asks_of_getElem? (t := t.add ⟨call, call.patience.map (s.clock + ·), .waiting⟩)
        (getElem?_add.2 (.inr ⟨rfl, rfl⟩))
      exact proceed_follows hn hwaiting hnew (hcall habsent hidle) s hs

/-- Nobody has called for a key that is neither there nor being computed. -/
theorem IsOrderly.notMem_of_idle [LawfulBEq κ] {before : Cache κ α} {now : Nat}
    (h : t.IsOrderly before now) (hpatient : t.IsPatient) {key : κ}
    (habsent : t.cache.get? key = none)
    (hidle : ¬ t.callers.any (Caller.isBusyWith key)) {c : Caller κ α} (hc : c ∈ t.callers) :
    c.call.key ≠ key := by
  rintro rfl
  obtain ⟨j, hj⟩ := List.mem_iff_getElem?.1 hc
  rcases (h.phase c.call.key).standing hj with hgone | ⟨value, -, hvalue⟩ |
    ⟨⟨wake, rest, hbusy⟩, -⟩ | ⟨-, l, d, wake, rest, hturn, hkey, hbusy⟩
  · obtain ⟨deadline, hdeadline, -⟩ := h.expired j c hj hgone
    rw [hpatient c hc] at hdeadline
    cases hdeadline
  · exact absurd (habsent.symm.trans hvalue) nofun
  · exact hidle (List.any_eq_true.2 ⟨c, hc, Caller.isBusyWith_iff.2 ⟨⟨wake, rest, hbusy⟩, rfl⟩⟩)
  · refine hidle (List.any_eq_true.2 ⟨d, List.mem_of_getElem? hturn.caller, ?_⟩)
    exact Caller.isBusyWith_iff.2 ⟨⟨wake, rest, hbusy⟩, hkey⟩

end Table

namespace Batch

variable [BEq κ] [LawfulBEq κ] (b : Batch κ α) {cache : Cache κ α} {cells : Cells κ α} {n : Network}

/-- The value that a key has, or else that of the first call for it, if the call were alone. -/
def expected (n : Network) (cache : Cache κ α) (k : κ) : Option α :=
  (cache.get? k).or (firstValue Call.key (fun call => call.computation.endIn n) b.calls k)

variable {b}

/-- What can be said of a table when these calls have been taken up. -/
structure Entered (b : Batch κ α) (n : Network) (cache : Cache κ α) (done : List (Call κ α))
    (t : Table κ α) : Prop where
  orderly : ∃ now, t.IsOrderly cache now
  calls : t.callers.map Caller.call = done
  patient : t.IsPatient
  follows : t.Follows n (b.expected n cache)

theorem Entered.enter (hn : n.IsSteady) (hpatience : ∀ call ∈ b.calls, call.patience = none)
    {done later : List (Call κ α)} {call : Call κ α} (hcalls : b.calls = done ++ call :: later)
    {t : Table κ α} (h : b.Entered n cache done t) :
    Keeps (fun s => s.network = n) (t.enter call) (b.Entered n cache (done ++ [call])) := by
  intro s hs
  obtain ⟨now, horderly⟩ := h.orderly
  have hnone : call.patience = none := hpatience call (by simp [hcalls])
  have henters := Table.enters_enter t call s
  rw [hnone, Option.map_none] at henters
  have hroster := henters.roster
  -- Its computation begins only if it is the first call for the key.
  have hfirst : t.cache.get? call.key = none → ¬ t.callers.any (Caller.isBusyWith call.key) →
      b.expected n cache call.key = some (call.computation.endIn n) := by
    intro habsent hidle
    have hbefore : cache.get? call.key = none := by
      have hcache := horderly.accounts.cache
      rw [hcache, get?, List.lookup_append, Option.or_eq_none_iff] at habsent
      exact habsent.1
    have hnew : ∀ d ∈ done, ¬ (d.key == call.key) = true := by
      intro d hd hkey
      rw [← h.calls] at hd
      obtain ⟨c, hc, rfl⟩ := List.mem_map.1 hd
      exact horderly.notMem_of_idle h.patient habsent hidle hc (eq_of_beq hkey)
    rw [expected, hbefore, hcalls, firstValue, List.find?_append, List.find?_eq_none.2 hnew]
    simp
  have hfollows := Table.enter_follows hn h.follows hfirst s hs
  refine ⟨hfollows.1, ⟨now, horderly.enters henters⟩, ?_, ?_, hfollows.2⟩
  · have hmap := congrArg (List.map Prod.fst) hroster
    simpa [Table.roster, Function.comp_def, ← h.calls] using hmap
  · rw [Table.isPatient_iff, hroster]
    simpa [or_imp, forall_and] using Table.isPatient_iff.1 h.patient

theorem entered_after (hn : n.IsSteady) (hcells : (cells.values.map Prod.fst).Nodup)
    (hpatience : ∀ call ∈ b.calls, call.patience = none) :
    Keeps (fun s => s.network = n) (b.calls.foldlM Table.enter { cells })
      (b.Entered n cells.values b.calls) := by
  have hstart : b.Entered n cells.values [] { cells } := by
    refine ⟨⟨0, Table.start_isOrderly hcells 0⟩, rfl, nofun, fun p hp => ?_, nofun⟩
    rw [expected, (get?_eq_some_iff_mem hcells).2 hp]
    rfl
  -- The calls that are taken up already come before those that are left.
  suffices ∀ later done t, b.calls = done ++ later → b.Entered n cells.values done t →
      Keeps (fun s => s.network = n) (later.foldlM Table.enter t)
        (b.Entered n cells.values b.calls) from
    this b.calls [] _ rfl hstart
  intro later
  induction later with
  | nil =>
      intro done t hcalls h
      rw [hcalls, List.append_nil]
      exact Keeps.pure h
  | cons call later ih =>
      intro done t hcalls h
      rw [List.foldlM_cons]
      refine Keeps.bind (h.enter hn hpatience hcalls) fun t' ht' => ?_
      exact ih _ t' (by rw [hcalls, List.append_assoc, List.singleton_append]) ht'

theorem exists_get?_run (hcells : (cells.values.map Prod.fst).Nodup)
    (hpatience : ∀ call ∈ b.calls, call.patience = none) {call : Call κ α} (hcall : call ∈ b.calls)
    (s : Session) : ∃ value, (b.run cells s).1.cache.get? call.key = some value := by
  have hmem := hcall
  rw [← b.run_calls s hcells] at hmem
  obtain ⟨c, hc, rfl⟩ := List.mem_map.1 hmem
  rcases b.run_caller s hcells hc with ⟨value, -, hvalue⟩ | ⟨-, ms, hms, -⟩
  · exact ⟨value, hvalue⟩
  · rw [hpatience _ hcall] at hms
    cases hms

/-- Calls that are made together leave the values that they would leave one after the other. -/
theorem get?_run (hcells : (cells.values.map Prod.fst).Nodup)
    (hpatience : ∀ call ∈ b.calls, call.patience = none) {s : Session}
    (hs : s.network.IsSteady) (k : κ) :
    (b.run cells s).1.cache.get? k = b.expected s.network cells.values k := by
  obtain ⟨hnetwork, hentered⟩ := entered_after (b := b) hs hcells hpatience s rfl
  have hfollows : (b.run cells s).1.Follows s.network (b.expected s.network cells.values) :=
    (Table.settle_follows hs _ hentered.follows hentered.patient _ hnetwork).2
  cases hexpected : b.expected s.network cells.values k with
  | none =>
      cases hvalue : (b.run cells s).1.cache.get? k with
      | none => rfl
      | some value =>
          rw [hfollows.cache _ (mem_of_get? hvalue)] at hexpected
          cases hexpected
  | some value =>
      -- Whatever value is there is the expected one, so it is enough that there is one.
      suffices ∃ value', (b.run cells s).1.cache.get? k = some value' by
        obtain ⟨value', hvalue'⟩ := this
        rw [hvalue', ← hexpected, hfollows.cache _ (mem_of_get? hvalue')]
      rcases Option.or_eq_some_iff.1 hexpected with hbefore | ⟨-, hcall⟩
      · have haccounts := (b.run_isOrderly s hcells).1.accounts.cache
        rw [haccounts]
        exact ⟨value, (List.prefix_append cells.values _).lookup_eq_some hbefore⟩
      · obtain ⟨call, hfind, -⟩ := Option.map_eq_some_iff.1 hcall
        have hkey : call.key = k := by simpa using List.find?_some hfind
        rw [← hkey]
        exact exists_get?_run hcells hpatience (List.mem_of_find?_eq_some hfind) s

end Batch

end Depot.Cache
