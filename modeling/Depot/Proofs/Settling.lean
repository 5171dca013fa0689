import Depot.Proofs.Endings
import Mathlib.Data.List.InsertIdx

/-!
How a batch of calls comes to its end. Each event brings a caller closer to its end and none further
away from it, so there are no more events than the computations can have waits and ends, and after
that everybody has a value or was abandoned.
-/

namespace Depot.Cache

open Http

variable {κ α : Type}

/-- At most so many events happen to the caller itself. -/
def Caller.EndsWithin (c : Caller κ α) (n : Nat) : Prop :=
  match c.status with
  | .waiting => 0 < n ∧ c.call.computation.WaitsAtMost (n - 1)
  | .busy _ rest => 0 < n ∧ rest.WaitsAtMost (n - 1)
  | _ => True

/-- At most so many events happen to all of them. -/
inductive EndWithin : List (Caller κ α) → Nat → Prop
  | nil : EndWithin [] 0
  | cons {c : Caller κ α} {cs : List (Caller κ α)} {m n : Nat} :
      c.EndsWithin m → EndWithin cs n → EndWithin (c :: cs) (m + n)

theorem Caller.next?_of_endsWithin_zero {c : Caller κ α} (h : c.EndsWithin 0) : c.next? = none := by
  unfold EndsWithin at h
  unfold next?
  split at h
  · exact absurd h.1 (Nat.lt_irrefl 0)
  · exact absurd h.1 (Nat.lt_irrefl 0)
  · rename_i hwaiting hbusy
    split
    · exact absurd ‹_› (hbusy _ _)
    · exact absurd ‹_› hwaiting
    · rfl

namespace EndWithin

variable {cs : List (Caller κ α)} {c : Caller κ α} {k n : Nat}

theorem concat (h : EndWithin cs n) {m : Nat} (hc : c.EndsWithin m) :
    EndWithin (cs ++ [c]) (n + m) := by
  induction h with
  | nil => simpa using cons hc nil
  | @cons d ds m' n' hd _ ih =>
      rw [Nat.add_assoc]
      exact cons hd ih

theorem map {f : Caller κ α → Caller κ α} (h : EndWithin cs n)
    (hf : ∀ c m, Caller.EndsWithin c m → (f c).EndsWithin m) : EndWithin (cs.map f) n := by
  induction h with
  | nil => exact nil
  | cons hc _ ih => exact cons (hf _ _ hc) ih

/-- The events of one caller and those of the others are counted apart. -/
theorem iff_eraseIdx (hk : cs[k]? = some c) :
    EndWithin cs n ↔ ∃ m r, n = m + r ∧ c.EndsWithin m ∧ EndWithin (cs.eraseIdx k) r := by
  induction cs generalizing k n with
  | nil => cases hk
  | cons d ds ih =>
      cases k with
      | zero =>
          obtain rfl : d = c := Option.some.inj hk
          constructor
          · rintro (_ | ⟨hd, hds⟩)
            exact ⟨_, _, rfl, hd, hds⟩
          · rintro ⟨m, r, rfl, hd, hds⟩
            exact cons hd hds
      | succ k =>
          have hk : ds[k]? = some c := hk
          constructor
          · rintro (_ | ⟨hd, hds⟩)
            obtain ⟨m, r, rfl, hc, hr⟩ := (ih hk).1 hds
            exact ⟨m, _, Nat.add_left_comm .., hc, cons hd hr⟩
          · rintro ⟨m, r, rfl, hc, hr⟩
            obtain _ | ⟨hd, hr⟩ := hr
            rw [Nat.add_left_comm]
            exact cons hd ((ih hk).2 ⟨m, _, rfl, hc, hr⟩)

theorem next?_of_zero (h : EndWithin cs 0) (hc : c ∈ cs) : c.next? = none := by
  obtain ⟨k, hk⟩ := List.mem_iff_getElem?.1 hc
  obtain ⟨m, r, hzero, hend, -⟩ := (iff_eraseIdx hk).1 h
  obtain rfl : m = 0 := by omega
  exact Caller.next?_of_endsWithin_zero hend

end EndWithin

namespace Table

variable {t t' : Table κ α} {k n : Nat} {c : Caller κ α}

/-- Only the events of the caller itself are others when its status changes. -/
theorem endWithin_setStatus {status : Status α} {m r : Nat} (hk : t.callers[k]? = some c)
    (hothers : EndWithin (t.callers.eraseIdx k) r)
    (hstatus : Caller.EndsWithin { c with status } m) :
    EndWithin (t.setStatus k status).callers (m + r) := by
  have hk' : (t.setStatus k status).callers[k]? = some { c with status } := by
    rw [getElem?_setStatus, hk, Option.map_some, if_pos rfl]
  refine (EndWithin.iff_eraseIdx hk').2 ⟨m, r, rfl, hstatus, ?_⟩
  rw [setStatus, List.eraseIdx_modify_of_eq]
  exact hothers

theorem endWithin_abandon (h : EndWithin t.callers n) (hk : t.callers[k]? = some c)
    (hc : c.next? ≠ none) : ∃ m < n, EndWithin (t.setStatus k .abandoned).callers m := by
  obtain ⟨m, r, rfl, hend, hothers⟩ := (EndWithin.iff_eraseIdx hk).1 h
  have hpos : 0 < m := by
    rcases Nat.eq_zero_or_pos m with rfl | hpos
    · exact absurd (Caller.next?_of_endsWithin_zero hend) hc
    · exact hpos
  exact ⟨0 + r, by omega, endWithin_setStatus hk hothers trivial⟩

end Table

variable [BEq κ]

namespace Table

variable {t t' : Table κ α} {k n : Nat} {c : Caller κ α}

theorem Proceeds.endWithin {x : Conversation α} {key : κ} {m r : Nat}
    (h : t.Proceeds k key x t') (hk : t.callers[k]? = some c) (hx : x.WaitsAtMost m)
    (hothers : EndWithin (t.callers.eraseIdx k) r) : EndWithin t'.callers (m + r) := by
  cases h with
  | ends value _ =>
      let given (c : Caller κ α) : Caller κ α :=
        if c.isWaitingFor key then { c with status := .answered value } else c
      have hgiven : ∀ c m, Caller.EndsWithin c m → (given c).EndsWithin m := by
        intro c m hc
        dsimp only [given]
        split
        · trivial
        · exact hc
      let t₁ : Table κ α := { t with callers := t.callers.map given }
      have hk₁ : t₁.callers[k]? = some (given c) := by rw [List.getElem?_map, hk, Option.map_some]
      have hothers₁ : EndWithin (t₁.callers.eraseIdx k) r := by
        rw [List.eraseIdx_map]
        exact hothers.map hgiven
      exact endWithin_setStatus (t := t₁) hk₁ hothers₁ trivial
  | waits wake rest hleaves =>
      refine endWithin_setStatus hk hothers ?_
      obtain ⟨m, rfl, hrest⟩ := hx.of_leaves hleaves
      exact ⟨Nat.succ_pos m, hrest⟩

/-- Every event leaves fewer of them. -/
theorem Happens.endWithin [LawfulBEq κ] {time : Nat} (h : t.Happens k c time t')
    (hk : t.callers[k]? = some c) (hnext : c.next? = some time) (hend : EndWithin t.callers n) :
    ∃ m < n, EndWithin t'.callers m := by
  have habandon := endWithin_abandon hend hk (by simp [hnext])
  cases h with
  | goesOn hbusy _ hproceeds =>
      -- The computation has waited once: that is the event that is not counted any more.
      obtain ⟨m, r, rfl, hc, hothers⟩ := (EndWithin.iff_eraseIdx hk).1 hend
      rw [Caller.EndsWithin, hbusy] at hc
      obtain ⟨hpos, hrest⟩ := hc
      exact ⟨m - 1 + r, by omega, hproceeds.endWithin hk hrest hothers⟩
  | leaves _ _ _ => exact habandon
  | @passes wake rest j d _ hbusy _ hfirst hproceeds =>
      have hwaits := (Caller.isWaitingFor_iff.1 hfirst.waits).1
      have hj := hfirst.abandon hk hbusy
      obtain ⟨_, hlt, hend⟩ := habandon
      obtain ⟨m, r, rfl, hd, hothers⟩ := (EndWithin.iff_eraseIdx hj).1 hend
      rw [Caller.EndsWithin, hwaits] at hd
      obtain ⟨hpos, hcomputation⟩ := hd
      exact ⟨m - 1 + r, by omega, hproceeds.endWithin hj hcomputation hothers⟩
  | givesUp _ => exact habandon
  | stays hnone => simp [hnone] at hnext

theorem Enters.endWithin {call : Call κ α} {deadline : Option Nat} {waits : Nat}
    (h : t.Enters call deadline t') (hend : EndWithin t.callers n)
    (hcall : call.computation.WaitsAtMost waits) :
    ∃ m ≤ n + (waits + 1), EndWithin t'.callers m := by
  cases h with
  | finds value _ => exact ⟨n + 0, by omega, hend.concat trivial⟩
  | joins _ _ => exact ⟨n + (waits + 1), Nat.le_refl _, hend.concat ⟨Nat.succ_pos waits, hcall⟩⟩
  | begins _ _ hproceeds =>
      have hk : (t.add ⟨call, deadline, .waiting⟩).callers[t.callers.length]? =
          some ⟨call, deadline, .waiting⟩ := getElem?_add.2 (.inr ⟨rfl, rfl⟩)
      have hothers : EndWithin ((t.add ⟨call, deadline, .waiting⟩).callers.eraseIdx
          t.callers.length) n := by
        rw [add, List.eraseIdx_append_of_length_le (Nat.le_refl _), Nat.sub_self]
        simpa using hend
      exact ⟨waits + n, by omega, hproceeds.endWithin hk hcall hothers⟩

end Table

section Clock

theorem contact_clock (s : Session) (sent : Sent) (limits : Limits) :
    (s.contact sent limits).2.clock = s.clock := rfl

namespace Table

variable (t : Table κ α) (k time : Nat) (s : Session)

theorem proceed_clock (key : κ) (x : Conversation α) : (t.proceed k key x s).2.clock = s.clock := by
  cases x with
  | done value => rfl
  | attempt sent limits next => exact contact_clock s sent limits
  | pause ms next => rfl

theorem enter_clock (call : Call κ α) : (t.enter call s).2.clock = s.clock := by
  unfold enter
  split
  · rfl
  · split
    · rfl
    · exact proceed_clock ..

theorem passTurn_clock (key : κ) : (t.passTurn key s).2.clock = s.clock := by
  unfold passTurn
  generalize t.callers.zipIdx.find? _ = first
  cases first with
  | none => rfl
  | some first => exact proceed_clock ..

theorem happen_clock (c : Caller κ α) : (t.happen k c time s).2.clock = s.clock := by
  unfold happen
  rcases c.status with _ | ⟨wake, rest⟩ | value | _
  · rfl
  · by_cases hwake : wake ≤ time
    · simp only [if_pos hwake]
      exact proceed_clock ..
    · simp only [if_neg hwake]
      exact passTurn_clock ..
  · rfl
  · rfl

end Table

end Clock

namespace Table

variable {t : Table κ α}

theorem settle_of_next?_none (h : t.next? = none) (steps : Nat) (s : Session) :
    t.settle steps s = (t, s) := by
  cases steps with
  | zero => rfl
  | succ steps =>
      rw [settle, h]
      rfl

theorem settle_succ {k time : Nat} {c : Caller κ α} (h : t.next? = some (k, c, time)) (steps : Nat)
    (s : Session) :
    t.settle (steps + 1) s =
      let moved := t.happen k c time { s with clock := max s.clock time }
      moved.1.settle steps moved.2 := by
  rw [settle, h]
  rfl

/-- What every event keeps holds when the events are over. The number is the time. -/
theorem settle_induction [LawfulBEq κ] {motive : Table κ α → Nat → Prop}
    (step : ∀ t now k c time t', motive t now → t.callers[k]? = some c → c.next? = some time →
      t.Happens k c time t' → motive t' (max now time))
    (steps : Nat) {s : Session} (h : motive t s.clock) :
    motive (t.settle steps s).1 (t.settle steps s).2.clock := by
  induction steps generalizing t s with
  | zero => exact h
  | succ steps ih =>
      cases hnext : t.next? with
      | none => rwa [settle_of_next?_none hnext]
      | some first =>
          obtain ⟨k, c, time⟩ := first
          obtain ⟨hk, hc⟩ := next?_eq_some hnext
          rw [settle_succ hnext]
          refine ih ?_
          rw [happen_clock]
          exact step t s.clock k c time _ h hk hc (happens_happen hk time _)

/-- There are no more events than computations have waits and ends. -/
theorem settle_finishes [LawfulBEq κ] {n steps : Nat} (h : EndWithin t.callers n)
    (hsteps : n ≤ steps) (s : Session) : (t.settle steps s).1.next? = none := by
  induction steps generalizing t n s with
  | zero =>
      obtain rfl : n = 0 := Nat.le_zero.1 hsteps
      cases hnext : t.next? with
      | none => exact hnext
      | some first =>
          obtain ⟨k, c, time⟩ := first
          obtain ⟨hk, hc⟩ := next?_eq_some hnext
          have hnone := h.next?_of_zero (List.mem_of_getElem? hk)
          simp [hnone] at hc
  | succ steps ih =>
      cases hnext : t.next? with
      | none => rwa [settle_of_next?_none hnext]
      | some first =>
          obtain ⟨k, c, time⟩ := first
          obtain ⟨hk, hc⟩ := next?_eq_some hnext
          obtain ⟨m, hlt, hm⟩ := (happens_happen hk time _).endWithin hk hc h
          rw [settle_succ hnext]
          exact ih hm (by omega) _

omit [BEq κ] in
/-- If nothing happens next then nothing happens to anybody. -/
theorem next?_eq_none (h : t.next? = none) {c : Caller κ α} (hc : c ∈ t.callers) :
    c.next? = none := by
  obtain ⟨k, hk⟩ := List.mem_iff_getElem?.1 hc
  have hmem : (c, k) ∈ t.callers.zipIdx := List.mem_zipIdx_iff_getElem?.2 hk
  obtain ⟨before, after, hsplit⟩ := List.append_of_mem hmem
  cases hc : c.next? with
  | none => rfl
  | some time =>
      -- Once somebody has been found, the search ends with somebody.
      rw [next?, hsplit, List.foldl_append, List.foldl_cons] at h
      refine absurd h (List.foldlRecOn (motive := (· ≠ none)) after _ ?_ ?_)
      · simp only [hc]
        generalize before.foldl _ none = best
        cases best with
        | none => exact Option.some_ne_none _
        | some best => dsimp only; split <;> exact Option.some_ne_none _
      · rintro best hbest ⟨d, j⟩ -
        dsimp only
        split
        · exact hbest
        · exact Option.some_ne_none _
        · split <;> exact Option.some_ne_none _

/-- What every call that is taken up keeps holds when all are. -/
theorem enter_induction {motive : List (Call κ α) → Table κ α → Prop} {now : Nat}
    (calls done : List (Call κ α)) (t : Table κ α) (s : Session) (hs : s.clock = now)
    (h : motive done t)
    (step : ∀ call ∈ calls, ∀ done t t', motive done t →
      t.Enters call (call.patience.map (now + ·)) t' → motive (done ++ [call]) t') :
    motive (done ++ calls) (calls.foldlM Table.enter t s).1 ∧
      (calls.foldlM Table.enter t s).2.clock = now := by
  induction calls generalizing t done s with
  | nil =>
      rw [List.append_nil]
      exact ⟨h, hs⟩
  | cons call calls ih =>
      have hcall := step call List.mem_cons_self done t _ h (hs ▸ enters_enter t call s)
      have hclock := (enter_clock t s call).trans hs
      rw [List.foldlM_cons, Run.bind_apply, List.append_cons]
      exact ih _ _ _ hclock hcall fun call hmem => step call (List.mem_cons_of_mem _ hmem)

end Table

end Depot.Cache
