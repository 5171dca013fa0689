import Depot.Proofs.CacheEvents

/-!
How things stand for a key while callers share a cache. Either nobody computes its value, or one
caller does and all others wait, or the value is there and everybody has it who asked for it and was
not abandoned. Whatever happens, and in whatever order, one of the three is the case for each key,
so that no value is computed twice and nobody waits in vain.
-/

namespace Depot.Cache

open Http

variable {κ α : Type}

/-- Has no value and computes none. -/
def Caller.IsPassive (c : Caller κ α) : Prop := c.status = .waiting ∨ c.status = .abandoned

def Ending.entry (e : Ending κ α) : κ × α := (e.key, e.value)

variable [BEq κ]

/-- It is the turn of this caller to compute the value: the value is not there, and all others who
asked for it wait or were abandoned. -/
structure Table.IsTurnOf (t : Table κ α) (k : Nat) (c : Caller κ α) : Prop where
  caller : t.callers[k]? = some c
  unanswered : ∀ value, c.status ≠ .answered value
  absent : t.cache.get? c.call.key = none
  others : ∀ (j : Nat) (d : Caller κ α), t.callers[j]? = some d → d.call.key = c.call.key →
    j ≠ k → d.IsPassive

/-- How things stand for a key. -/
inductive Table.Phase (t : Table κ α) (key : κ) : Prop
  | vacant : t.cache.get? key = none →
      (∀ (j : Nat) (c : Caller κ α), t.callers[j]? = some c → c.call.key = key →
        c.status = .abandoned) →
      t.Phase key
  | computing (k : Nat) (c : Caller κ α) (wake : Nat) (rest : Conversation α) :
      t.IsTurnOf k c → c.call.key = key → c.status = .busy wake rest → t.Phase key
  | stored (value : α) : t.cache.get? key = some value →
      (∀ (j : Nat) (c : Caller κ α), t.callers[j]? = some c → c.call.key = key →
        c.status = .answered value ∨ c.status = .abandoned) →
      t.Phase key

/-- The tables do not differ in what they hold for the key. -/
structure Table.Agrees (key : κ) (t t' : Table κ α) : Prop where
  cache : t'.cache.get? key = t.cache.get? key
  callers : ∀ (j : Nat) (c : Caller κ α), c.call.key = key →
    (t'.callers[j]? = some c ↔ t.callers[j]? = some c)

namespace Table

variable {t t' t'' : Table κ α} {key : κ} {k : Nat} {c : Caller κ α}

namespace Agrees

theorem refl (key : κ) (t : Table κ α) : Agrees key t t := ⟨rfl, fun _ _ _ => Iff.rfl⟩

theorem trans (h : Agrees key t t') (h' : Agrees key t' t'') : Agrees key t t'' :=
  ⟨h'.cache.trans h.cache, fun j c hc => (h'.callers j c hc).trans (h.callers j c hc)⟩

/-- If callers are changed one by one, none of another key and none in its call, tables agree. -/
theorem of_map {f : Nat → Caller κ α → Caller κ α} (hcache : t'.cache.get? key = t.cache.get? key)
    (hmap : ∀ j : Nat, t'.callers[j]? = t.callers[j]?.map (f j))
    (hcall : ∀ j d, (f j d).call = d.call)
    (hsame : ∀ (j : Nat) (d : Caller κ α), t.callers[j]? = some d → d.call.key = key →
      f j d = d) :
    Agrees key t t' := by
  refine ⟨hcache, fun j c hc => ?_⟩
  rw [hmap, Option.map_eq_some_iff]
  constructor
  · rintro ⟨d, hd, rfl⟩
    rw [hcall] at hc
    rwa [hsame j d hd hc]
  · intro h
    exact ⟨c, h, hsame j c h hc⟩

theorem setStatus {own : κ} (hk : t.Asks k own) (hne : key ≠ own) (status : Status α) :
    Agrees key t (t.setStatus k status) := by
  refine of_map (f := fun j d => if k = j then { d with status } else d) rfl
    (fun j => getElem?_setStatus t k j status) (fun j d => by split <;> rfl) fun j d hd hkey => ?_
  refine if_neg ?_
  rintro rfl
  exact hne (hkey.symm.trans (hk d hd))

theorem add {c : Caller κ α} (hne : key ≠ c.call.key) : Agrees key t (t.add c) := by
  refine ⟨by rw [cache_add], fun j d hd => ?_⟩
  rw [getElem?_add]
  constructor
  · rintro (h | ⟨-, rfl⟩)
    · exact h
    · exact absurd hd.symm hne
  · exact .inl

end Agrees

namespace Phase

theorem congr (h : t.Phase key) (hagrees : Agrees key t t') : t'.Phase key := by
  cases h with
  | vacant habsent hgone =>
      refine .vacant (hagrees.cache.trans habsent) fun j c hc hkey => ?_
      exact hgone j c ((hagrees.callers j c hkey).1 hc) hkey
  | computing k c wake rest hturn hkey hbusy =>
      subst hkey
      have hturn' : t'.IsTurnOf k c := by
        refine ⟨(hagrees.callers k c rfl).2 hturn.caller, hturn.unanswered,
          hagrees.cache.trans hturn.absent, fun j d hd hkey hne => ?_⟩
        exact hturn.others j d ((hagrees.callers j d hkey).1 hd) hkey hne
      exact .computing k c wake rest hturn' rfl hbusy
  | stored value hpresent hgiven =>
      refine .stored value (hagrees.cache.trans hpresent) fun j c hc hkey => ?_
      exact hgiven j c ((hagrees.callers j c hkey).1 hc) hkey

/-- How a caller stands with its key. -/
theorem standing (h : t.Phase c.call.key) (hk : t.callers[k]? = some c) :
    c.status = .abandoned ∨
      (∃ value, c.status = .answered value ∧ t.cache.get? c.call.key = some value) ∨
      (∃ wake rest, c.status = .busy wake rest) ∧ t.IsTurnOf k c ∨
      c.status = .waiting ∧ ∃ l d wake rest, t.IsTurnOf l d ∧ d.call.key = c.call.key ∧
        d.status = .busy wake rest := by
  cases h with
  | vacant _ hgone => exact .inl (hgone k c hk rfl)
  | stored value hpresent hgiven =>
      rcases hgiven k c hk rfl with hanswered | hgone
      · exact .inr (.inl ⟨value, hanswered, hpresent⟩)
      · exact .inl hgone
  | computing l d wake rest hturn hkey hbusy =>
      by_cases hkl : k = l
      · subst hkl
        obtain rfl : d = c := Option.some.inj (hturn.caller.symm.trans hk)
        exact .inr (.inr (.inl ⟨⟨wake, rest, hbusy⟩, hturn⟩))
      · rcases hturn.others k c hk hkey.symm hkl with hwaits | hgone
        · exact .inr (.inr (.inr ⟨hwaits, l, d, wake, rest, hturn, hkey, hbusy⟩))
        · exact .inl hgone

/-- Who computes has the turn. -/
theorem isTurnOf (h : t.Phase c.call.key) (hk : t.callers[k]? = some c) {wake : Nat}
    {rest : Conversation α} (hbusy : c.status = .busy wake rest) : t.IsTurnOf k c := by
  have hstanding := h.standing hk
  simp only [hbusy, reduceCtorEq, false_and, exists_false, false_or, or_false] at hstanding
  exact hstanding.2

/-- If somebody waits then somebody else computes. -/
theorem computing_of_waiting (h : t.Phase c.call.key) (hk : t.callers[k]? = some c)
    (hwaits : c.status = .waiting) :
    ∃ l d wake rest, t.IsTurnOf l d ∧ d.call.key = c.call.key ∧ d.status = .busy wake rest := by
  have hstanding := h.standing hk
  simp only [hwaits, reduceCtorEq, false_and, exists_false, false_or] at hstanding
  exact hstanding.2

theorem get?_of_answered (h : t.Phase c.call.key) (hk : t.callers[k]? = some c) {value : α}
    (hanswered : c.status = .answered value) : t.cache.get? c.call.key = some value := by
  have hstanding := h.standing hk
  simp only [hanswered, Status.answered.injEq, reduceCtorEq, exists_false, exists_eq_left',
    false_and, or_false, false_or] at hstanding
  exact hstanding

end Phase

end Table

variable [LawfulBEq κ]

theorem get?_put_self {c : Cache κ α} {key : κ} (h : c.get? key = none) (value : α) :
    (c.put key value).get? key = some value := by
  rw [get?] at h
  simp [put, get?, h, List.lookup_append]

theorem get?_put_of_ne {c : Cache κ α} {key other : κ} (hne : other ≠ key) (value : α) :
    (c.put key value).get? other = c.get? other := by
  unfold put
  split
  · rfl
  · have hother : (other == key) = false := by simpa using hne
    simp [get?, List.lookup_append, List.lookup_cons, hother]

theorem get?_eq_some_iff_mem {c : Cache κ α} (h : (c.map Prod.fst).Nodup) {key : κ} {value : α} :
    c.get? key = some value ↔ (key, value) ∈ c := by
  refine ⟨mem_of_get?, fun hmem => ?_⟩
  induction c with
  | nil => cases hmem
  | cons p c ih =>
      rw [List.map_cons, List.nodup_cons] at h
      rcases List.mem_cons.1 hmem with rfl | hmem
      · exact List.lookup_cons_self
      · have hne : key ≠ p.1 := by
          rintro rfl
          exact h.1 (List.mem_map.2 ⟨_, hmem, rfl⟩)
        rw [get?, List.lookup_cons, beq_eq_false_iff_ne.2 hne]
        exact ih h.2 hmem

namespace Table

variable {t t' : Table κ α} {key : κ} {k : Nat} {c : Caller κ α}

namespace Agrees

theorem finish {own : κ} (hk : t.Asks k own) (hne : key ≠ own) (value : α) :
    Agrees key t (t.finish k own value) := by
  have hcache : (t.finish k own value).cache.get? key = t.cache.get? key := by
    rw [cache_finish, get?_put_of_ne hne]
  refine of_map (f := fun j d => if k = j ∨ d.isWaitingFor own then
      { d with status := .answered value } else d) hcache
    (fun j => getElem?_finish t k j own value) (fun j d => by split <;> rfl)
    fun j d hd hkey => ?_
  refine if_neg ?_
  rintro (rfl | hwaits)
  · exact hne (hkey.symm.trans (hk d hd))
  · exact hne (hkey.symm.trans (Caller.isWaitingFor_iff.1 hwaits).2)

theorem proceeds {own : κ} {x : Conversation α} (hk : t.Asks k own) (hne : key ≠ own)
    (h : t.Proceeds k own x t') : Agrees key t t' := by
  cases h with
  | ends value _ => exact finish hk hne value
  | waits wake rest _ => exact setStatus hk hne _

end Agrees

namespace Phase

/-- When a computation has gone on its value is there, or the same caller still computes it. -/
theorem of_proceeds {x : Conversation α} (hturn : t.IsTurnOf k c)
    (h : t.Proceeds k c.call.key x t') : t'.Phase c.call.key := by
  cases h with
  | ends value _ =>
      -- The others who asked for it wait, and are given the value, or were abandoned.
      have hvalue : (t.finish k c.call.key value).cache.get? c.call.key = some value := by
        rw [cache_finish, get?_put_self hturn.absent]
      refine .stored value hvalue fun j d hd hkey => ?_
      rcases finish_cases hd with hgiven | ⟨hkj, hnot, hd⟩
      · exact .inl hgiven
      · rcases hturn.others j d hd hkey (Ne.symm hkj) with hwaits | hgone
        · exact absurd (Caller.isWaitingFor_iff.2 ⟨hwaits, hkey⟩) hnot
        · exact .inr hgone
  | waits wake rest _ =>
      refine .computing k { c with status := .busy wake rest } wake rest
        ⟨?_, nofun, hturn.absent, fun j d hd hkey hne => ?_⟩ rfl rfl
      · rw [getElem?_setStatus, hturn.caller, Option.map_some, if_pos rfl]
      · rcases setStatus_cases hd with ⟨hkj, -⟩ | ⟨-, hd⟩
        · exact absurd hkj.symm hne
        · exact hturn.others j d hd hkey hne

end Phase

omit [LawfulBEq κ] in
/-- Another caller keeps its turn when one is abandoned. -/
theorem IsTurnOf.abandon {l : Nat} {d : Caller κ α} (h : t.IsTurnOf l d) (hne : k ≠ l) :
    (t.setStatus k .abandoned).IsTurnOf l d := by
  refine ⟨?_, h.unanswered, h.absent, fun j e he hkey hjl => ?_⟩
  · rw [getElem?_setStatus, h.caller, Option.map_some, if_neg hne]
  · rcases setStatus_cases he with ⟨-, f, -, rfl⟩ | ⟨-, he⟩
    · exact .inr rfl
    · exact h.others j e he hkey hjl

/-- When the caller that has the turn is abandoned, one that waits can have it. -/
theorem IsTurnOf.pass {j wake : Nat} {d : Caller κ α} {rest : Conversation α} (h : t.IsTurnOf k c)
    (hbusy : c.status = .busy wake rest) (hfirst : t.IsFirstWaiting c.call.key j d) :
    (t.setStatus k .abandoned).IsTurnOf j d := by
  obtain ⟨hwaits, hkey⟩ := Caller.isWaitingFor_iff.1 hfirst.waits
  refine ⟨?_, by simp [hwaits], hkey ▸ h.absent, fun i e he hkey' hij => ?_⟩
  · exact hfirst.abandon h.caller hbusy
  · rcases setStatus_cases he with ⟨-, f, -, rfl⟩ | ⟨hki, he⟩
    · exact .inr rfl
    · exact h.others i e he (hkey'.trans hkey) (Ne.symm hki)

/-- An event leaves all other keys alone. -/
theorem Happens.agrees {time : Nat} (h : t.Happens k c time t') (hk : t.callers[k]? = some c)
    (hne : key ≠ c.call.key) : Agrees key t t' := by
  have hasks := asks_of_getElem? hk
  cases h with
  | goesOn _ _ hproceeds => exact .proceeds hasks hne hproceeds
  | leaves _ _ _ => exact .setStatus hasks hne _
  | @passes wake rest j d _ hbusy _ hfirst hproceeds =>
      have hkey := (Caller.isWaitingFor_iff.1 hfirst.waits).2
      have hasks' := hkey ▸ asks_of_getElem? (hfirst.abandon hk hbusy)
      exact (Agrees.setStatus hasks hne _).trans (.proceeds hasks' hne hproceeds)
  | givesUp _ => exact .setStatus hasks hne _
  | stays _ => exact .refl key t

/-- Whatever happens, things stand in one of the three ways for each key. -/
theorem Happens.phase {time : Nat} (h : t.Happens k c time t') (hk : t.callers[k]? = some c)
    (hphase : ∀ key, t.Phase key) (key : κ) : t'.Phase key := by
  by_cases hkey : key = c.call.key
  · subst hkey
    have hown := hphase c.call.key
    cases h with
    | goesOn hbusy _ hproceeds => exact .of_proceeds (hown.isTurnOf hk hbusy) hproceeds
    | leaves hbusy _ hnone =>
        have hturn := hown.isTurnOf hk hbusy
        refine .vacant hturn.absent fun j d hd hkey => ?_
        rcases setStatus_cases hd with ⟨-, f, -, rfl⟩ | ⟨hkj, hd⟩
        · rfl
        · rcases hturn.others j d hd hkey (Ne.symm hkj) with hwaits | hgone
          · have hmem := List.mem_of_getElem? hd
            exact absurd (Caller.isWaitingFor_iff.2 ⟨hwaits, hkey⟩) (hnone d hmem)
          · exact hgone
    | @passes wake rest j d _ hbusy _ hfirst hproceeds =>
        have hturn := hown.isTurnOf hk hbusy
        have hd := Caller.isWaitingFor_iff.1 hfirst.waits
        have hpass := hturn.pass hbusy hfirst
        rw [← hd.2] at hproceeds ⊢
        exact .of_proceeds hpass hproceeds
    | givesUp hwaits =>
        obtain ⟨l, d, wake, rest, hturn, hkey, hbusy⟩ := hown.computing_of_waiting hk hwaits
        have hne : k ≠ l := by
          rintro rfl
          obtain rfl : d = c := Option.some.inj (hturn.caller.symm.trans hk)
          rw [hwaits] at hbusy
          cases hbusy
        exact .computing l d wake rest (hturn.abandon hne) hkey hbusy
    | stays _ => exact hown
  · exact (hphase key).congr (h.agrees hk hkey)

theorem Enters.agrees {call : Call κ α} {deadline : Option Nat} (h : t.Enters call deadline t')
    (hne : key ≠ call.key) : Agrees key t t' := by
  cases h with
  | finds value _ => exact .add hne
  | joins _ _ => exact .add hne
  | begins _ _ hproceeds =>
      refine (Agrees.add (c := ⟨call, deadline, .waiting⟩) hne).trans (.proceeds ?_ hne hproceeds)
      exact asks_of_getElem? (getElem?_add.2 (.inr ⟨rfl, rfl⟩))

omit [LawfulBEq κ] in
/-- A new caller takes nobody's turn. -/
theorem IsTurnOf.add (h : t.IsTurnOf k c) {d : Caller κ α} (hd : d.IsPassive) :
    (t.add d).IsTurnOf k c := by
  refine ⟨getElem?_add.2 (.inl h.caller), h.unanswered, by rw [cache_add, h.absent],
    fun j e he hkey hne => ?_⟩
  rcases getElem?_add.1 he with he | ⟨-, rfl⟩
  · exact h.others j e he hkey hne
  · exact hd

/-- A new caller has the turn if the value is not there and nobody computes it. -/
theorem Phase.isTurnOf_new {call : Call κ α} {deadline : Option Nat} (h : t.Phase call.key)
    (habsent : t.cache.get? call.key = none)
    (hidle : ¬ t.callers.any (Caller.isBusyWith call.key)) :
    (t.add ⟨call, deadline, .waiting⟩).IsTurnOf t.callers.length ⟨call, deadline, .waiting⟩ := by
  refine ⟨getElem?_add.2 (.inr ⟨rfl, rfl⟩), nofun, by rw [cache_add, habsent],
    fun j d hd hkey hne => ?_⟩
  rcases getElem?_add.1 hd with hd | ⟨hj, -⟩
  · cases h with
    | vacant _ hgone => exact .inr (hgone j d hd hkey)
    | computing k c wake rest hturn hkey hbusy =>
        refine absurd (List.any_eq_true.2 ⟨c, List.mem_of_getElem? hturn.caller, ?_⟩) hidle
        exact Caller.isBusyWith_iff.2 ⟨⟨wake, rest, hbusy⟩, hkey⟩
    | stored value hpresent _ => exact absurd (habsent.symm.trans hpresent) nofun
  · exact absurd hj hne

theorem Enters.phase {call : Call κ α} {deadline : Option Nat} (h : t.Enters call deadline t')
    (hphase : ∀ key, t.Phase key) (key : κ) : t'.Phase key := by
  by_cases hkey : key = call.key
  · subst hkey
    have hown := hphase call.key
    cases h with
    | finds value hvalue =>
        cases hown with
        | vacant habsent _ => exact absurd (habsent.symm.trans hvalue) nofun
        | computing k c wake rest hturn hkey _ =>
            have habsent := hkey ▸ hturn.absent
            exact absurd (habsent.symm.trans hvalue) nofun
        | stored v hpresent hgiven =>
            obtain rfl : v = value := Option.some.inj (hpresent.symm.trans hvalue)
            refine .stored v (by rw [cache_add, hvalue]) fun j c hc hkey => ?_
            rcases getElem?_add.1 hc with hc | ⟨-, rfl⟩
            · exact hgiven j c hc hkey
            · exact .inl rfl
    | joins habsent hbusy =>
        obtain ⟨c, hc, hbusy⟩ := List.any_eq_true.1 hbusy
        obtain ⟨k, hk⟩ := List.mem_iff_getElem?.1 hc
        obtain ⟨⟨wake, rest, hbusy⟩, hkey⟩ := Caller.isBusyWith_iff.1 hbusy
        have hturn := (hkey ▸ hown : t.Phase c.call.key).isTurnOf hk hbusy
        exact .computing k c wake rest (hturn.add (.inl rfl)) hkey hbusy
    | begins habsent hidle hproceeds =>
        exact .of_proceeds (hown.isTurnOf_new habsent hidle) hproceeds
  · exact (hphase key).congr (h.agrees hkey)

end Table

end Depot.Cache
