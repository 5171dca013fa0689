import Depot.Proofs.KeyPhases

/-!
What a cache owes to its callers. It holds what it held in the beginning, and after that exactly the
values of the computations that ended, one for each key; each of them is that of a caller who got
it. Nobody is abandoned before its time.
-/

namespace Depot.Cache

open Http

variable {κ α : Type}

/-- The caller's own computation ended so, and the caller has its value. -/
structure Caller.HasEnded (c : Caller κ α) (e : Ending κ α) : Prop where
  key : c.call.key = e.key
  status : c.status = .answered e.value
  yields : c.call.computation.Yields e.value

structure Table.Accounts (before : Cache κ α) (t : Table κ α) : Prop where
  distinct : (t.cache.map Prod.fst).Nodup
  cache : t.cache = before ++ t.endings.map Ending.entry
  owner : ∀ e ∈ t.endings, ∃ c, t.callers[e.caller]? = some c ∧ c.HasEnded e
  /-- What is left of a computation ends with no other values than the whole of it. -/
  rest : ∀ (j : Nat) (c : Caller κ α) (wake : Nat) (rest : Conversation α),
    t.callers[j]? = some c → c.status = .busy wake rest →
    ∀ value, rest.Yields value → c.call.computation.Yields value

/-- Who is abandoned had no more patience at this time. -/
def Table.Expired (now : Nat) (t : Table κ α) : Prop :=
  ∀ (j : Nat) (c : Caller κ α), t.callers[j]? = some c → c.status = .abandoned →
    ∃ deadline, c.deadline = some deadline ∧ deadline ≤ now

/-- Who called, and how long each caller has time. -/
def Table.roster (t : Table κ α) : List (Call κ α × Option Nat) :=
  t.callers.map fun c => (c.call, c.deadline)

namespace Table

variable {t t' : Table κ α} {before : Cache κ α} {k now : Nat} {c : Caller κ α}

@[simp] theorem roster_setStatus (t : Table κ α) (k : Nat) (status : Status α) :
    (t.setStatus k status).roster = t.roster := by
  refine List.ext_getElem? fun j => ?_
  rw [roster, roster, List.getElem?_map, List.getElem?_map, getElem?_setStatus, Option.map_map]
  congr 1
  funext c
  dsimp only [Function.comp]
  split <;> rfl

@[simp] theorem roster_add [BEq κ] (t : Table κ α) (c : Caller κ α) :
    (t.add c).roster = t.roster ++ [(c.call, c.deadline)] := by
  simp [roster, add]

theorem Expired.mono {now' : Nat} (h : t.Expired now) (hnow : now ≤ now') : t.Expired now' := by
  intro j c hc hgone
  obtain ⟨deadline, hdeadline, hle⟩ := h j c hc hgone
  exact ⟨deadline, hdeadline, Nat.le_trans hle hnow⟩

theorem Expired.add [BEq κ] (h : t.Expired now) (hc : c.status ≠ .abandoned) :
    (t.add c).Expired now := by
  intro j d hd hgone
  rcases getElem?_add.1 hd with hd | ⟨-, rfl⟩
  · exact h j d hd hgone
  · exact absurd hgone hc

theorem Expired.setStatus {status : Status α} (h : t.Expired now) (hk : t.callers[k]? = some c)
    (hstatus : status = .abandoned → ∃ deadline, c.deadline = some deadline ∧ deadline ≤ now) :
    (t.setStatus k status).Expired now := by
  intro j d hd hgone
  rcases setStatus_cases hd with ⟨-, e, he, rfl⟩ | ⟨-, hd⟩
  · obtain rfl : c = e := Option.some.inj (hk.symm.trans he)
    exact hstatus hgone
  · exact h j d hd hgone

theorem Accounts.setStatus {status : Status α} (h : t.Accounts before)
    (hk : t.callers[k]? = some c) (hc : ∀ value, c.status ≠ .answered value)
    (hrest : ∀ wake rest, status = .busy wake rest →
      ∀ value, rest.Yields value → c.call.computation.Yields value) :
    (t.setStatus k status).Accounts before := by
  refine ⟨h.distinct, h.cache, fun e he => ?_, fun j d wake rest hd hbusy => ?_⟩
  · obtain ⟨d, hd, hended⟩ := h.owner e he
    have hne : k ≠ e.caller := by
      rintro rfl
      obtain rfl : c = d := Option.some.inj (hk.symm.trans hd)
      exact hc _ hended.status
    refine ⟨d, ?_, hended⟩
    rw [getElem?_setStatus, hd, Option.map_some, if_neg hne]
  · rcases setStatus_cases hd with ⟨-, f, hf, rfl⟩ | ⟨-, hd⟩
    · obtain rfl : c = f := Option.some.inj (hk.symm.trans hf)
      exact hrest wake rest hbusy
    · exact h.rest j d wake rest hd hbusy

theorem Accounts.add [BEq κ] (h : t.Accounts before)
    (hc : ∀ wake rest, c.status ≠ .busy wake rest) : (t.add c).Accounts before := by
  refine ⟨?_, ?_, fun e he => ?_, fun j d wake rest hd hbusy => ?_⟩
  · rw [cache_add]
    exact h.distinct
  · rw [cache_add]
    exact h.cache
  · obtain ⟨d, hd, hended⟩ := h.owner e he
    exact ⟨d, getElem?_add.2 (.inl hd), hended⟩
  · rcases getElem?_add.1 hd with hd | ⟨-, rfl⟩
    · exact h.rest j d wake rest hd hbusy
    · exact absurd hbusy (hc wake rest)

end Table

theorem Caller.deadline_of_next? {c : Caller κ α} {time wake : Nat} {rest : Conversation α}
    (h : c.next? = some time) (hbusy : c.status = .busy wake rest) (hlt : time < wake) :
    c.deadline = some time := by
  rw [next?, hbusy, Option.some.injEq] at h
  cases hdeadline : c.deadline with
  | none =>
      have hwake : wake = time := by simpa [hdeadline] using h
      omega
  | some deadline =>
      have hmin : min wake deadline = time := by simpa [hdeadline] using h
      congr 1
      omega

variable [BEq κ]

theorem put_of_absent {c : Cache κ α} {key : κ} (h : c.get? key = none) (value : α) :
    c.put key value = c ++ [(key, value)] := by
  rw [put, h]

@[simp] theorem Table.roster_finish (t : Table κ α) (k : Nat) (key : κ) (value : α) :
    (t.finish k key value).roster = t.roster := by
  refine List.ext_getElem? fun j => ?_
  rw [roster, roster, List.getElem?_map, List.getElem?_map, getElem?_finish, Option.map_map]
  congr 1
  funext c
  dsimp only [Function.comp]
  split <;> rfl

theorem Table.Expired.finish {t : Table κ α} {now : Nat} (h : t.Expired now) (k : Nat) (key : κ)
    (value : α) : (t.finish k key value).Expired now := by
  intro j d hd hgone
  rcases finish_cases hd with hgiven | ⟨-, -, hd⟩
  · rw [hgiven] at hgone
    cases hgone
  · exact h j d hd hgone

variable [LawfulBEq κ]

/-- No key comes twice. -/
theorem nodup_put {c : Cache κ α} (h : (c.map Prod.fst).Nodup) (key : κ) (value : α) :
    ((c.put key value).map Prod.fst).Nodup := by
  cases habsent : c.get? key with
  | some _ => rwa [put, habsent]
  | none =>
      have hnew : key ∉ c.map Prod.fst := by
        intro hmem
        obtain ⟨p, hp, hkey⟩ := List.mem_map.1 hmem
        simpa [hkey] using List.lookup_eq_none_iff.1 habsent p hp
      rw [put_of_absent habsent, List.map_append, List.nodup_append]
      refine ⟨h, by simp, ?_⟩
      rintro a ha _ hb rfl
      obtain rfl : a = key := List.mem_singleton.1 hb
      exact hnew ha

namespace Table

variable {t t' : Table κ α} {before : Cache κ α} {k now : Nat} {c : Caller κ α}

theorem Accounts.finish {value : α} (h : t.Accounts before) (hturn : t.IsTurnOf k c)
    (hyields : c.call.computation.Yields value) :
    (t.finish k c.call.key value).Accounts before := by
  have hk : (t.finish k c.call.key value).callers[k]? =
      some { c with status := .answered value } := by
    rw [getElem?_finish, hturn.caller, Option.map_some, if_pos (.inl rfl)]
  refine ⟨?_, ?_, fun e he => ?_, fun j d wake rest hd hbusy => ?_⟩
  · rw [cache_finish]
    exact nodup_put h.distinct c.call.key value
  · change _ = before ++ (t.endings ++ [_]).map Ending.entry
    rw [cache_finish, put_of_absent hturn.absent, List.map_append, ← List.append_assoc, ← h.cache]
    rfl
  · rcases List.mem_append.1 he with he | he
    · obtain ⟨d, hd, hended⟩ := h.owner e he
      refine ⟨d, ?_, hended⟩
      rw [getElem?_finish, hd, Option.map_some, if_neg]
      rintro (rfl | hwaits)
      · obtain rfl : c = d := Option.some.inj (hturn.caller.symm.trans hd)
        exact hturn.unanswered _ hended.status
      · rw [Caller.isWaitingFor_iff, hended.status] at hwaits
        cases hwaits.1
    · obtain rfl := List.mem_singleton.1 he
      exact ⟨_, hk, rfl, rfl, hyields⟩
  · rcases finish_cases hd with hgiven | ⟨-, -, hd⟩
    · rw [hgiven] at hbusy
      cases hbusy
    · exact h.rest j d wake rest hd hbusy

theorem Accounts.proceeds {x : Conversation α} (h : t.Accounts before) (hturn : t.IsTurnOf k c)
    (hx : ∀ value, x.Yields value → c.call.computation.Yields value)
    (hproceeds : t.Proceeds k c.call.key x t') : t'.Accounts before := by
  cases hproceeds with
  | ends value hdone => exact h.finish hturn (hx value (hdone ▸ .done value))
  | waits wake rest hleaves =>
      refine h.setStatus hturn.caller hturn.unanswered ?_
      rintro _ _ ⟨rfl, rfl⟩ value hyields
      exact hx value (.step hleaves hyields)

omit [LawfulBEq κ] in
theorem Expired.proceeds {x : Conversation α} {key : κ} (h : t.Expired now)
    (hk : t.callers[k]? = some c) (hproceeds : t.Proceeds k key x t') : t'.Expired now := by
  cases hproceeds with
  | ends value _ => exact h.finish k key value
  | waits wake rest _ => exact h.setStatus hk nofun

omit [LawfulBEq κ] in
theorem Proceeds.roster {x : Conversation α} {key : κ} (h : t.Proceeds k key x t') :
    t'.roster = t.roster := by
  cases h with
  | ends value _ => exact roster_finish t k key value
  | waits wake rest _ => exact roster_setStatus t k _

theorem Accounts.happens {time : Nat} (h : t.Accounts before) (hphase : ∀ key, t.Phase key)
    (hk : t.callers[k]? = some c) (hhappens : t.Happens k c time t') : t'.Accounts before := by
  cases hhappens with
  | @goesOn wake rest _ hbusy _ hproceeds =>
      have hturn := (hphase _).isTurnOf hk hbusy
      exact h.proceeds hturn (h.rest k c wake rest hk hbusy) hproceeds
  | leaves hbusy _ _ => exact h.setStatus hk (by simp [hbusy]) (by simp)
  | @passes wake rest j d _ hbusy _ hfirst hproceeds =>
      -- What ends after the turn has passed is the computation of the one who waited.
      have hturn := (hphase _).isTurnOf hk hbusy
      have hgone : (t.setStatus k .abandoned).Accounts before :=
        h.setStatus hk hturn.unanswered (by simp)
      rw [← (Caller.isWaitingFor_iff.1 hfirst.waits).2] at hproceeds
      exact hgone.proceeds (hturn.pass hbusy hfirst) (fun _ => id) hproceeds
  | givesUp hwaits => exact h.setStatus hk (by simp [hwaits]) (by simp)
  | stays _ => exact h

theorem Expired.happens {time now' : Nat} (h : t.Expired now) (hk : t.callers[k]? = some c)
    (hnext : c.next? = some time) (hnow : now ≤ now') (htime : time ≤ now')
    (hhappens : t.Happens k c time t') : t'.Expired now' := by
  have h := h.mono hnow
  cases hhappens with
  | goesOn _ _ hproceeds => exact h.proceeds hk hproceeds
  | leaves hbusy hlt _ =>
      exact h.setStatus hk fun _ => ⟨time, Caller.deadline_of_next? hnext hbusy hlt, htime⟩
  | passes hbusy hlt hfirst hproceeds =>
      have hgone : (t.setStatus k .abandoned).Expired now' :=
        h.setStatus hk fun _ => ⟨time, Caller.deadline_of_next? hnext hbusy hlt, htime⟩
      exact hgone.proceeds (hfirst.abandon hk hbusy) hproceeds
  | givesUp hwaits =>
      have hdeadline : c.deadline = some time := by simpa only [Caller.next?, hwaits] using hnext
      exact h.setStatus hk fun _ => ⟨time, hdeadline, htime⟩
  | stays hnone => simp [hnone] at hnext

omit [LawfulBEq κ] in
theorem Happens.roster {time : Nat} (h : t.Happens k c time t') : t'.roster = t.roster := by
  cases h with
  | goesOn _ _ hproceeds => exact hproceeds.roster
  | leaves _ _ _ => exact roster_setStatus t k _
  | passes _ _ _ hproceeds => exact hproceeds.roster.trans (roster_setStatus t k _)
  | givesUp _ => exact roster_setStatus t k _
  | stays _ => rfl

section Enters

variable {call : Call κ α} {deadline : Option Nat}

theorem Accounts.enters (h : t.Accounts before) (hphase : t.Phase call.key)
    (henters : t.Enters call deadline t') : t'.Accounts before := by
  cases henters with
  | finds value _ => exact h.add nofun
  | joins _ _ => exact h.add nofun
  | begins habsent hidle hproceeds =>
      have hadded : (t.add ⟨call, deadline, .waiting⟩).Accounts before := h.add nofun
      have hturn : (t.add ⟨call, deadline, .waiting⟩).IsTurnOf _ ⟨call, deadline, .waiting⟩ :=
        hphase.isTurnOf_new habsent hidle
      exact hadded.proceeds hturn (fun _ => id) hproceeds

omit [LawfulBEq κ] in
theorem Expired.enters (h : t.Expired now) (henters : t.Enters call deadline t') :
    t'.Expired now := by
  cases henters with
  | finds value _ => exact h.add nofun
  | joins _ _ => exact h.add nofun
  | begins _ _ hproceeds =>
      have hadded : (t.add ⟨call, deadline, .waiting⟩).Expired now := h.add nofun
      exact hadded.proceeds (getElem?_add.2 (.inr ⟨rfl, rfl⟩)) hproceeds

omit [LawfulBEq κ] in
theorem Enters.roster (h : t.Enters call deadline t') :
    t'.roster = t.roster ++ [(call, deadline)] := by
  cases h with
  | finds _ _ => exact roster_add t _
  | joins _ _ => exact roster_add t _
  | begins _ _ hproceeds => exact hproceeds.roster.trans (roster_add t _)

end Enters

/-- Everything that callers can rely on at a time. -/
structure IsOrderly (before : Cache κ α) (now : Nat) (t : Table κ α) : Prop where
  phase : ∀ key, t.Phase key
  accounts : t.Accounts before
  expired : t.Expired now

theorem IsOrderly.happens {time now' : Nat} (h : t.IsOrderly before now)
    (hk : t.callers[k]? = some c) (hnext : c.next? = some time) (hnow : now ≤ now')
    (htime : time ≤ now') (hhappens : t.Happens k c time t') : t'.IsOrderly before now' where
  phase := hhappens.phase hk h.phase
  accounts := h.accounts.happens h.phase hk hhappens
  expired := h.expired.happens hk hnext hnow htime hhappens

theorem IsOrderly.enters {call : Call κ α} {deadline : Option Nat} (h : t.IsOrderly before now)
    (henters : t.Enters call deadline t') : t'.IsOrderly before now where
  phase := henters.phase h.phase
  accounts := h.accounts.enters (h.phase call.key) henters
  expired := h.expired.enters henters

end Table

end Depot.Cache
