import Depot.Cache.Schedule
import Depot.Proofs.Scope

/-!
Callers that share a cache. If all computations stay within a scope and end with values that their
keys may have, then so does everything that is done for the callers together, in whatever order
events happen: the cache gets no other values, and nothing else is touched.
-/

namespace Depot.Cache

open Http

variable {κ α : Type}

section Sound

variable {P : Sent → Prop} {V : κ → α → Prop}

/-- The computation of a call and what is left of it stay within bounds, and a value that was given
is one that the key may have. -/
def Caller.IsSound (P : Sent → Prop) (V : κ → α → Prop) (c : Caller κ α) : Prop :=
  c.call.computation.Sends P (V c.call.key) ∧
    match c.status with
    | .busy _ rest => rest.Sends P (V c.call.key)
    | .answered value => V c.call.key value
    | _ => True

structure Table.IsSound (P : Sent → Prop) (V : κ → α → Prop) (t : Table κ α) : Prop where
  cache : ∀ p ∈ t.cache, V p.1 p.2
  callers : ∀ c ∈ t.callers, c.IsSound P V

/-- The caller at this position asks for this key. -/
def Table.Asks (t : Table κ α) (k : Nat) (key : κ) : Prop :=
  ∀ c, t.callers[k]? = some c → c.call.key = key

theorem Table.asks_of_getElem? {t : Table κ α} {k : Nat} {c : Caller κ α}
    (h : t.callers[k]? = some c) : t.Asks k c.call.key := by
  intro d hd
  rw [h, Option.some.injEq] at hd
  rw [hd]

namespace Table.IsSound

variable {t : Table κ α}

theorem caller (h : t.IsSound P V) {k : Nat} {c : Caller κ α} (hc : t.callers[k]? = some c) :
    c.IsSound P V :=
  h.callers c (List.mem_of_getElem? hc)

theorem setStatus (h : t.IsSound P V) {k : Nat} {status : Status α}
    (hs : ∀ c, t.callers[k]? = some c → Caller.IsSound P V { c with status }) :
    (t.setStatus k status).IsSound P V := by
  refine ⟨h.cache, fun c hc => ?_⟩
  obtain ⟨j, hj⟩ := List.mem_iff_getElem?.1 hc
  rw [Table.setStatus, List.getElem?_modify] at hj
  obtain ⟨d, hd, rfl⟩ := Option.map_eq_some_iff.1 hj
  by_cases hkj : k = j
  · subst hkj
    simpa using hs d hd
  · simpa [hkj] using h.caller hd

end Table.IsSound

end Sound

variable [BEq κ]

theorem mem_put {c : Cache κ α} {key : κ} {value : α} {p : κ × α} (h : p ∈ c.put key value) :
    p ∈ c ∨ p = (key, value) := by
  unfold put at h
  split at h
  · exact .inl h
  · rcases List.mem_append.1 h with h | h
    · exact .inl h
    · exact .inr (List.mem_singleton.1 h)

variable [LawfulBEq κ]

theorem mem_of_get? {c : Cache κ α} {key : κ} {value : α} (h : c.get? key = some value) :
    (key, value) ∈ c := by
  obtain ⟨before, after, rfl, -⟩ := List.lookup_eq_some_iff.1 h
  simp

theorem Caller.key_of_isWaitingFor {c : Caller κ α} {key : κ} (h : c.isWaitingFor key) :
    c.call.key = key := by
  unfold isWaitingFor at h
  split at h
  · exact eq_of_beq h
  · simp at h

namespace Table

variable {scope : Scope} {inv : Session → Prop} {V : κ → α → Prop} {t : Table κ α}

omit [LawfulBEq κ] in
theorem IsSound.add {P : Sent → Prop} (h : t.IsSound P V) {c : Caller κ α} (hc : c.IsSound P V) :
    (t.add c).IsSound P V := by
  refine ⟨?_, fun d hd => ?_⟩
  · rw [cache_add]
    exact h.cache
  · rcases List.mem_append.1 hd with hd | hd
    · exact h.callers d hd
    · rwa [List.mem_singleton.1 hd]

theorem IsSound.finish {P : Sent → Prop} (h : t.IsSound P V) {k : Nat} {key : κ} {value : α}
    (hk : t.Asks k key) (hv : V key value) : (t.finish k key value).IsSound P V := by
  apply IsSound.setStatus
  · constructor
    · intro p hp
      rcases mem_put (cache_finish t k key value ▸ hp) with hp | rfl
      · exact h.cache p hp
      · exact hv
    · intro c hc
      obtain ⟨d, hd, rfl⟩ := List.mem_map.1 hc
      split
      · rename_i hwait
        exact ⟨(h.callers d hd).1, Caller.key_of_isWaitingFor hwait ▸ hv⟩
      · exact h.callers d hd
  · intro c hc
    rw [List.getElem?_map] at hc
    obtain ⟨d, hd, rfl⟩ := Option.map_eq_some_iff.1 hc
    have hgiven : Caller.IsSound P V { d with status := .answered value } :=
      ⟨(h.caller hd).1, hk d hd ▸ hv⟩
    split <;> exact hgiven

theorem proceed_keeps (hinv : scope.SparesReading inv) (h : t.IsSound scope.sends V) {k : Nat}
    {key : κ} (hk : t.Asks k key) {c : Conversation α} (hc : c.Sends scope.sends (V key)) :
    Run.Keeps inv (t.proceed k key c) (IsSound scope.sends V) := by
  have hbusy : ∀ wake rest, rest.Sends scope.sends (V key) →
      (t.setStatus k (.busy wake rest)).IsSound scope.sends V := by
    intro wake rest hrest
    exact h.setStatus fun d hd => ⟨(h.caller hd).1, (hk d hd).symm ▸ hrest⟩
  cases c with
  | done value => exact Run.Keeps.pure (h.finish hk hc)
  | attempt sent limits next =>
      intro s hs
      exact ⟨hinv.contact s sent limits hs hc.1, hbusy _ _ (hc.2 _)⟩
  | pause ms next =>
      intro s hs
      exact ⟨hs, hbusy _ _ hc⟩

theorem enter_keeps (hinv : scope.SparesReading inv) (h : t.IsSound scope.sends V)
    {call : Call κ α} (hcall : call.computation.Sends scope.sends (V call.key)) :
    Run.Keeps inv (t.enter call) (IsSound scope.sends V) := by
  intro s hs
  unfold enter
  split
  · rename_i value hvalue
    rw [get?_cells] at hvalue
    exact ⟨hs, h.add ⟨hcall, h.cache _ (mem_of_get? hvalue)⟩⟩
  · have hwaiting := h.add (c := ⟨call, call.patience.map (s.clock + ·), .waiting⟩) ⟨hcall, trivial⟩
    split
    · exact ⟨hs, hwaiting⟩
    · exact proceed_keeps hinv hwaiting (asks_of_getElem? List.getElem?_concat_length) hcall s hs

theorem passTurn_keeps (hinv : scope.SparesReading inv) (h : t.IsSound scope.sends V) (key : κ) :
    Run.Keeps inv (t.passTurn key) (IsSound scope.sends V) := by
  unfold passTurn
  split
  · exact Run.Keeps.pure h
  · rename_i c k hfind
    have hk := List.mem_zipIdx_iff_getElem?.1 (List.mem_of_find?_eq_some hfind)
    have hwait : c.isWaitingFor key := by simpa using List.find?_some hfind
    obtain rfl := Caller.key_of_isWaitingFor hwait
    exact proceed_keeps hinv h (asks_of_getElem? hk) (h.caller hk).1

theorem happen_keeps (hinv : scope.SparesReading inv) (h : t.IsSound scope.sends V) {k : Nat}
    {c : Caller κ α} (hk : t.callers[k]? = some c) (time : Nat) :
    Run.Keeps inv (t.happen k c time) (IsSound scope.sends V) := by
  have habandoned : (t.setStatus k .abandoned).IsSound scope.sends V :=
    h.setStatus fun d hd => ⟨(h.caller hd).1, trivial⟩
  unfold happen
  split
  · rename_i wake rest hstatus
    have hrest : rest.Sends scope.sends (V c.call.key) := by
      simpa only [hstatus] using (h.caller hk).2
    split
    · exact proceed_keeps hinv h (asks_of_getElem? hk) hrest
    · exact passTurn_keeps hinv habandoned _
  · exact Run.Keeps.pure habandoned
  · exact Run.Keeps.pure h

omit [BEq κ] [LawfulBEq κ] in
/-- Whoever is next is one of the callers. -/
theorem next?_eq_some {k : Nat} {c : Caller κ α} {time : Nat} (h : t.next? = some (k, c, time)) :
    t.callers[k]? = some c ∧ c.next? = some time := by
  unfold next? at h
  refine List.foldlRecOn (motive := fun best => ∀ k c time, best = some (k, c, time) →
    t.callers[k]? = some c ∧ c.next? = some time) _ _ (by simp) ?_ k c time h
  rintro best hbest ⟨d, j⟩ hd k c time hk
  have hj : t.callers[j]? = some d := List.mem_zipIdx_iff_getElem?.1 hd
  dsimp only at hk
  split at hk
  · exact hbest k c time hk
  · rename_i hnext
    cases hk
    exact ⟨hj, hnext⟩
  · rename_i hnext
    split at hk
    · cases hk
      exact ⟨hj, hnext⟩
    · exact hbest k c time hk

theorem settle_keeps (hinv : scope.SparesReading inv) (h : t.IsSound scope.sends V) (steps : Nat) :
    Run.Keeps inv (t.settle steps) (IsSound scope.sends V) := by
  induction steps generalizing t with
  | zero => exact Run.Keeps.pure h
  | succ steps ih =>
      unfold settle
      split
      · exact Run.Keeps.pure h
      · rename_i k c time hnext
        refine Run.Keeps.bind (Run.Keeps.modify fun s hs => hinv.clock s _ hs) fun _ _ => ?_
        exact Run.Keeps.bind (happen_keeps hinv h (next?_eq_some hnext).1 time) fun _ ht => ih ht

end Table

theorem Cells.compute_keeps {scope : Scope} {inv : Session → Prop} {V : κ → α → Prop}
    (hinv : scope.SparesReading inv) {cells : Cells κ α} (hcells : ∀ p ∈ cells.values, V p.1 p.2)
    {calls : List (Call κ α)}
    (hcalls : ∀ call ∈ calls, call.computation.Sends scope.sends (V call.key)) (waits : Nat) :
    Run.Keeps inv (cells.compute waits calls) (Table.IsSound scope.sends V) := by
  have hstart : Table.IsSound scope.sends V { cells } := ⟨hcells, by simp⟩
  refine Run.Keeps.bind (Run.Keeps.foldlM ?_ hstart) fun t ht => Table.settle_keeps hinv ht _
  exact fun t call hcall ht => Table.enter_keeps hinv ht (hcalls call hcall)

theorem compute_keeps {scope : Scope} {inv : Session → Prop} {V : κ → α → Prop}
    (hinv : scope.SparesReading inv) {cache : Cache κ α} (hcache : ∀ p ∈ cache, V p.1 p.2)
    {calls : List (Call κ α)}
    (hcalls : ∀ call ∈ calls, call.computation.Sends scope.sends (V call.key)) (waits : Nat) :
    Run.Keeps inv (compute waits cache calls) (Table.IsSound scope.sends V) :=
  Cells.compute_keeps hinv ((Cells.values_ofCache cache).symm ▸ hcache) hcalls waits

end Depot.Cache
