import Depot.Proofs.Scheduling

/-!
What can happen when callers share a cache, in whatever order it happens: a call is taken up, a
computation goes on, or a caller is abandoned. Each of these changes the table by one of few moves,
and none of them touches callers that ask for another key.
-/

namespace Depot.Cache

open Http

variable {κ α : Type}

namespace Table

variable {t : Table κ α}

theorem getElem?_setStatus (t : Table κ α) (k j : Nat) (status : Status α) :
    (t.setStatus k status).callers[j]? =
      t.callers[j]?.map fun c => if k = j then { c with status } else c := by
  rw [setStatus, List.getElem?_modify]
  rfl

/-- Whose status was set, and who is as before. -/
theorem setStatus_cases {k j : Nat} {status : Status α} {d : Caller κ α}
    (h : (t.setStatus k status).callers[j]? = some d) :
    (k = j ∧ ∃ c, t.callers[k]? = some c ∧ d = { c with status }) ∨
      k ≠ j ∧ t.callers[j]? = some d := by
  rw [getElem?_setStatus] at h
  obtain ⟨c, hc, rfl⟩ := Option.map_eq_some_iff.1 h
  by_cases hkj : k = j
  · subst hkj
    exact .inl ⟨rfl, c, hc, if_pos rfl⟩
  · rw [if_neg hkj]
    exact .inr ⟨hkj, hc⟩

theorem getElem?_add [BEq κ] {c d : Caller κ α} {j : Nat} :
    (t.add c).callers[j]? = some d ↔
      t.callers[j]? = some d ∨ j = t.callers.length ∧ d = c := by
  rcases Nat.lt_trichotomy j t.callers.length with h | rfl | h
  · have hne : j ≠ t.callers.length := Nat.ne_of_lt h
    simp [add, List.getElem?_append_left h, hne]
  · simp [add, eq_comm]
  · have hne : j ≠ t.callers.length := Nat.ne_of_gt h
    have hbeyond : t.callers[j]? = none := List.getElem?_eq_none (Nat.le_of_lt h)
    have hend : (t.callers ++ [c])[j]? = none :=
      List.getElem?_eq_none (by rw [List.length_append]; exact h)
    simp [add, hbeyond, hend, hne]

end Table

variable [BEq κ]

theorem Table.getElem?_finish (t : Table κ α) (k j : Nat) (key : κ) (value : α) :
    (t.finish k key value).callers[j]? = t.callers[j]?.map fun c =>
      if k = j ∨ c.isWaitingFor key then { c with status := .answered value } else c := by
  rw [finish, getElem?_setStatus, List.getElem?_map, Option.map_map]
  congr 1
  funext c
  by_cases hk : k = j <;> by_cases hwait : c.isWaitingFor key <;> simp [hk, hwait]

/-- Who was given the value, and who is as before. -/
theorem Table.finish_cases {t : Table κ α} {k j : Nat} {key : κ} {value : α} {d : Caller κ α}
    (h : (t.finish k key value).callers[j]? = some d) :
    d.status = .answered value ∨
      k ≠ j ∧ ¬ d.isWaitingFor key ∧ t.callers[j]? = some d := by
  rw [getElem?_finish] at h
  obtain ⟨c, hc, rfl⟩ := Option.map_eq_some_iff.1 h
  by_cases hgiven : k = j ∨ c.isWaitingFor key
  · rw [if_pos hgiven]
    exact .inl rfl
  · rw [if_neg hgiven]
    exact .inr ⟨fun hkj => hgiven (.inl hkj), fun hwaits => hgiven (.inr hwaits), hc⟩

theorem Caller.isWaitingFor_iff [LawfulBEq κ] {c : Caller κ α} {key : κ} :
    c.isWaitingFor key ↔ c.status = .waiting ∧ c.call.key = key := by
  unfold isWaitingFor
  split
  · rename_i h
    simp [h]
  · rename_i h
    simpa using fun hwait => absurd hwait h

theorem Caller.isBusyWith_iff [LawfulBEq κ] {c : Caller κ α} {key : κ} :
    c.isBusyWith key ↔ (∃ wake rest, c.status = .busy wake rest) ∧ c.call.key = key := by
  unfold isBusyWith
  split
  · rename_i wake rest h
    simp [h]
  · rename_i h
    simpa using fun wake rest hbusy => absurd hbusy (h wake rest)

section Moves

/-- What a caller's own computation does with the table: it ends, or it has to wait. -/
inductive Table.Proceeds (t : Table κ α) (k : Nat) (key : κ) (c : Conversation α) :
    Table κ α → Prop
  | ends (value : α) : c = .done value → t.Proceeds k key c (t.finish k key value)
  | waits (wake : Nat) (rest : Conversation α) :
      c.Leaves rest → t.Proceeds k key c (t.setStatus k (.busy wake rest))

theorem Table.proceeds_proceed (t : Table κ α) (k : Nat) (key : κ) (c : Conversation α)
    (s : Session) : t.Proceeds k key c (t.proceed k key c s).1 := by
  cases c with
  | done value => exact .ends value rfl
  | attempt sent limits next => exact .waits _ _ (.attempt sent limits next _)
  | pause ms next => exact .waits _ _ (.pause ms next)

/-- A call is taken up: its value is there, somebody computes it, or its own computation begins. -/
inductive Table.Enters (t : Table κ α) (call : Call κ α) (deadline : Option Nat) :
    Table κ α → Prop
  | finds (value : α) : t.cache.get? call.key = some value →
      t.Enters call deadline (t.add ⟨call, deadline, .answered value⟩)
  | joins : t.cache.get? call.key = none → t.callers.any (Caller.isBusyWith call.key) →
      t.Enters call deadline (t.add ⟨call, deadline, .waiting⟩)
  | begins {t' : Table κ α} : t.cache.get? call.key = none →
      ¬ t.callers.any (Caller.isBusyWith call.key) →
      (t.add ⟨call, deadline, .waiting⟩).Proceeds t.callers.length call.key call.computation t' →
      t.Enters call deadline t'

theorem Table.enters_enter (t : Table κ α) (call : Call κ α) (s : Session) :
    t.Enters call (call.patience.map (s.clock + ·)) (t.enter call s).1 := by
  unfold enter
  split
  · rename_i value hvalue
    rw [get?_cells] at hvalue
    exact .finds value hvalue
  · rename_i habsent
    rw [get?_cells] at habsent
    split
    · rename_i hbusy
      exact .joins habsent hbusy
    · rename_i hbusy
      exact .begins habsent hbusy (proceeds_proceed _ _ _ _ s)

/-- Of the callers that wait for the key this is the first one. -/
structure Table.IsFirstWaiting (t : Table κ α) (key : κ) (j : Nat) (d : Caller κ α) : Prop where
  caller : t.callers[j]? = some d
  waits : d.isWaitingFor key
  first : ∀ (i : Nat) (e : Caller κ α), t.callers[i]? = some e → e.isWaitingFor key → j ≤ i

/-- What happens to a caller at this time. -/
inductive Table.Happens (t : Table κ α) (k : Nat) (c : Caller κ α) (time : Nat) :
    Table κ α → Prop
  | goesOn {wake : Nat} {rest : Conversation α} {t' : Table κ α} : c.status = .busy wake rest →
      wake ≤ time → t.Proceeds k c.call.key rest t' → t.Happens k c time t'
  | leaves {wake : Nat} {rest : Conversation α} : c.status = .busy wake rest → time < wake →
      (∀ d ∈ t.callers, ¬ d.isWaitingFor c.call.key) →
      t.Happens k c time (t.setStatus k .abandoned)
  | passes {wake : Nat} {rest : Conversation α} {j : Nat} {d : Caller κ α} {t' : Table κ α} :
      c.status = .busy wake rest → time < wake → t.IsFirstWaiting c.call.key j d →
      (t.setStatus k .abandoned).Proceeds j c.call.key d.call.computation t' →
      t.Happens k c time t'
  | givesUp : c.status = .waiting → t.Happens k c time (t.setStatus k .abandoned)
  | stays : c.next? = none → t.Happens k c time t

theorem Table.find?_isWaitingFor {t : Table κ α} {key : κ} {j : Nat} {d : Caller κ α}
    (h : t.callers.zipIdx.find? (fun (c, _) => c.isWaitingFor key) = some (d, j)) :
    t.IsFirstWaiting key j d := by
  obtain ⟨hwait, i, hi, heq, hbefore⟩ := List.find?_eq_some_iff_getElem.1 h
  obtain ⟨hd, rfl⟩ : t.callers[i]? = some d ∧ i = j := by
    rw [List.getElem_zipIdx, Prod.mk.injEq] at heq
    exact ⟨List.getElem?_eq_some_iff.2 ⟨by simpa using hi, heq.1⟩, by simpa using heq.2⟩
  refine ⟨hd, hwait, fun l e he hwaits => Nat.le_of_not_lt fun hl => ?_⟩
  have hno := hbefore l hl
  simp [(List.getElem?_eq_some_iff.1 he).2, hwaits] at hno

theorem Table.not_isWaitingFor_of_find? {t : Table κ α} {key : κ}
    (h : t.callers.zipIdx.find? (fun (c, _) => c.isWaitingFor key) = none) :
    ∀ d ∈ t.callers, ¬ d.isWaitingFor key := by
  intro d hd
  obtain ⟨j, hj⟩ := List.mem_iff_getElem?.1 hd
  exact List.find?_eq_none.1 h (d, j) (List.mem_zipIdx_iff_getElem?.2 hj)

omit [BEq κ] in
/-- The same callers wait when one that did not wait is abandoned. -/
theorem Table.getElem?_abandoned_iff {t : Table κ α} {k j : Nat} {c d : Caller κ α}
    (hk : t.callers[k]? = some c) (hc : c.status ≠ .waiting) (hd : d.status = .waiting) :
    (t.setStatus k .abandoned).callers[j]? = some d ↔ t.callers[j]? = some d := by
  rw [getElem?_setStatus]
  by_cases hkj : k = j
  · subst hkj
    have hne : c ≠ d := fun h => hc (h ▸ hd)
    have hne' : Caller.mk c.call c.deadline .abandoned ≠ d := by
      rintro rfl
      cases hd
    simp [hk, hne, hne']
  · simp [hkj]

/-- Who waits first still does when the one that computed is abandoned. -/
theorem Table.IsFirstWaiting.abandon [LawfulBEq κ] {t : Table κ α} {key : κ} {k j : Nat}
    {c d : Caller κ α} {wake : Nat} {rest : Conversation α} (h : t.IsFirstWaiting key j d)
    (hk : t.callers[k]? = some c) (hbusy : c.status = .busy wake rest) :
    (t.setStatus k .abandoned).callers[j]? = some d :=
  (getElem?_abandoned_iff hk (by simp [hbusy]) (Caller.isWaitingFor_iff.1 h.waits).1).2 h.caller

theorem Table.happens_happen [LawfulBEq κ] {t : Table κ α} {k : Nat} {c : Caller κ α}
    (hk : t.callers[k]? = some c) (time : Nat) (s : Session) :
    t.Happens k c time (t.happen k c time s).1 := by
  unfold happen
  rcases hstatus : c.status with _ | ⟨wake, rest⟩ | value | _
  case waiting => exact .givesUp hstatus
  case answered => exact .stays (by rw [Caller.next?, hstatus])
  case abandoned => exact .stays (by rw [Caller.next?, hstatus])
  case busy =>
    by_cases hwake : wake ≤ time
    · simp only [if_pos hwake]
      exact .goesOn hstatus hwake (proceeds_proceed _ _ _ _ s)
    · have hwaiting : ∀ {j : Nat} {d : Caller κ α}, d.isWaitingFor c.call.key →
          ((t.setStatus k .abandoned).callers[j]? = some d ↔ t.callers[j]? = some d) := by
        intro j d hd
        exact getElem?_abandoned_iff hk (by simp [hstatus]) (Caller.isWaitingFor_iff.1 hd).1
      simp only [if_neg hwake, passTurn]
      cases hfind : (t.setStatus k .abandoned).callers.zipIdx.find?
          (fun (d, _) => d.isWaitingFor c.call.key) with
      | none =>
          refine .leaves hstatus (Nat.lt_of_not_le hwake) fun d hd hwaits => ?_
          obtain ⟨j, hj⟩ := List.mem_iff_getElem?.1 hd
          have hj := (hwaiting hwaits).2 hj
          exact not_isWaitingFor_of_find? hfind d (List.mem_of_getElem? hj) hwaits
      | some first =>
          obtain ⟨d, j⟩ := first
          have hfirst := find?_isWaitingFor hfind
          refine .passes hstatus (Nat.lt_of_not_le hwake) (j := j) (d := d) ?_
            (proceeds_proceed _ _ _ _ s)
          refine ⟨(hwaiting hfirst.waits).1 hfirst.caller, hfirst.waits, fun i e he hwaits => ?_⟩
          exact hfirst.first i e ((hwaiting hwaits).2 he) hwaits

end Moves

end Depot.Cache
