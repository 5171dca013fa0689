import Depot.Cache.Schedule
import Depot.Proofs.Matching

/-!
Callers that share a cache, side by side. If the same values are there and the computations of
corresponding callers match, the same happens to both in the same order, and they are answered
alike. Cells that are empty make no difference.
-/

namespace Depot.Cache

open Http Run

section Lists

variable {α β : Type} {V : α → β → Prop} {as : List α} {bs : List β}

theorem forall₂_modify (h : List.Forall₂ V as bs) {f : α → α} {g : β → β}
    (hf : ∀ a b, V a b → V (f a) (g b)) (k : Nat) :
    List.Forall₂ V (as.modify k f) (bs.modify k g) := by
  induction h generalizing k with
  | nil => cases k <;> exact .nil
  | cons hab hrest ih =>
      cases k with
      | zero => exact .cons (hf _ _ hab) hrest
      | succ k => exact .cons hab (ih k)

theorem forall₂_zipIdx (h : List.Forall₂ V as bs) (n : Nat) :
    List.Forall₂ (fun p q => V p.1 q.1 ∧ p.2 = q.2) (as.zipIdx n) (bs.zipIdx n) := by
  induction h generalizing n with
  | nil => exact .nil
  | cons hab _ ih => exact .cons ⟨hab, rfl⟩ (ih (n + 1))

theorem find?_of_forall₂ (h : List.Forall₂ V as bs) {p : α → Bool} {q : β → Bool}
    (hp : ∀ a b, V a b → p a = q b) : Option.Rel V (as.find? p) (bs.find? q) := by
  induction h with
  | nil => exact .none
  | cons hab _ ih =>
      rw [List.find?_cons, List.find?_cons, ← hp _ _ hab]
      split
      · exact .some hab
      · exact ih

theorem forall₂_zip {γ δ : Type} {W : γ → δ → Prop} {cs : List γ} {ds : List δ}
    (h : List.Forall₂ V as bs) (h' : List.Forall₂ W cs ds) :
    List.Forall₂ (fun p q => V p.1 q.1 ∧ W p.2 q.2) (as.zip cs) (bs.zip ds) := by
  induction h generalizing cs ds with
  | nil => exact .nil
  | cons hab _ ih =>
      cases h' with
      | nil => exact .nil
      | cons hcd hrest => exact .cons ⟨hab, hcd⟩ (ih hrest)

end Lists

variable {κ α : Type} {S : Sent → Sent → Prop}

structure Call.Twins (S : Sent → Sent → Prop) (call call' : Call κ α) : Prop where
  key : call.key = call'.key
  patience : call.patience = call'.patience
  computation : call.computation.Matches S Eq call'.computation

inductive Status.Twins (S : Sent → Sent → Prop) : Status α → Status α → Prop
  | waiting : Twins S .waiting .waiting
  | busy {wake : Nat} {rest rest' : Conversation α} :
      rest.Matches S Eq rest' → Twins S (.busy wake rest) (.busy wake rest')
  | answered (value : α) : Twins S (.answered value) (.answered value)
  | abandoned : Twins S .abandoned .abandoned

structure Caller.Twins (S : Sent → Sent → Prop) (c c' : Caller κ α) : Prop where
  call : c.call.Twins S c'.call
  deadline : c.deadline = c'.deadline
  status : c.status.Twins S c'.status

structure Table.Twins (S : Sent → Sent → Prop) (t t' : Table κ α) : Prop where
  cache : t.cache = t'.cache
  callers : List.Forall₂ (Caller.Twins S) t.callers t'.callers
  endings : t.endings = t'.endings

namespace Caller.Twins

variable {c c' : Caller κ α}

theorem value? (h : c.Twins S c') : c.value? = c'.value? := by
  obtain ⟨call, deadline, status⟩ := c
  obtain ⟨call', deadline', status'⟩ := c'
  obtain ⟨-, -, hstatus⟩ := h
  cases hstatus <;> rfl

theorem eq (h : c.Twins Eq c') : c = c' := by
  obtain ⟨⟨key, computation, patience⟩, deadline, status⟩ := c
  obtain ⟨⟨key', computation', patience'⟩, deadline', status'⟩ := c'
  obtain ⟨⟨rfl, rfl, hcomputation⟩, rfl, hstatus⟩ := h
  obtain rfl := hcomputation.eq
  cases hstatus with
  | busy hrest => rw [hrest.eq]
  | _ => rfl

theorem next? (h : c.Twins S c') : c.next? = c'.next? := by
  obtain ⟨call, deadline, status⟩ := c
  obtain ⟨call', deadline', status'⟩ := c'
  obtain ⟨-, rfl, hstatus⟩ := h
  cases hstatus <;> rfl

variable [BEq κ]

theorem isWaitingFor (h : c.Twins S c') (key : κ) : c.isWaitingFor key = c'.isWaitingFor key := by
  obtain ⟨call, deadline, status⟩ := c
  obtain ⟨call', deadline', status'⟩ := c'
  obtain ⟨hcall, -, hstatus⟩ := h
  cases hstatus with
  | waiting => exact congrArg (· == key) hcall.key
  | _ => rfl

theorem isBusyWith (h : c.Twins S c') (key : κ) : c.isBusyWith key = c'.isBusyWith key := by
  obtain ⟨call, deadline, status⟩ := c
  obtain ⟨call', deadline', status'⟩ := c'
  obtain ⟨hcall, -, hstatus⟩ := h
  cases hstatus with
  | busy _ => exact congrArg (· == key) hcall.key
  | _ => rfl

end Caller.Twins

namespace Table

variable {t t' : Table κ α}

theorem Twins.setStatus (h : t.Twins S t') (k : Nat) {status status' : Status α}
    (hs : status.Twins S status') : (t.setStatus k status).Twins S (t'.setStatus k status') where
  cache := h.cache
  callers := by
    refine forall₂_modify h.callers (f := fun c => { c with status }) ?_ k
    exact fun _ _ hc => ⟨hc.call, hc.deadline, hs⟩
  endings := h.endings

theorem Twins.next? (h : t.Twins S t') :
    Option.Rel (fun p p' => p.1 = p'.1 ∧ p.2.1.Twins S p'.2.1 ∧ p.2.2 = p'.2.2)
      t.next? t'.next? := by
  refine List.rel_foldl (R := fun p q => p.1.Twins S q.1 ∧ p.2 = q.2) ?_ .none
    (forall₂_zipIdx h.callers 0)
  rintro best best' hbest ⟨c, k⟩ ⟨c', k'⟩ ⟨hc, hk⟩
  dsimp only at hc hk ⊢
  subst hk
  rw [← hc.next?]
  cases c.next? with
  | none => exact hbest
  | some time =>
      cases hbest with
      | none => exact .some ⟨rfl, hc, rfl⟩
      | @some p p' hp =>
          dsimp only
          rw [← hp.2.2]
          split
          · exact .some ⟨rfl, hc, rfl⟩
          · exact .some hp

variable [BEq κ] {R : Session → Session → Prop}

theorem Twins.finish (h : t.Twins S t') (k : Nat) (key : κ) (value : α) :
    (t.finish k key value).Twins S (t'.finish k key value) := by
  refine Twins.setStatus ⟨?_, ?_, ?_⟩ k (.answered value)
  · exact (cache_finish t k key value).trans (h.cache ▸ (cache_finish t' k key value).symm)
  · refine List.rel_map (fun c c' hc => ?_) h.callers
    rw [← hc.isWaitingFor key]
    split
    · exact ⟨hc.call, hc.deadline, .answered value⟩
    · exact hc
  · dsimp only
    rw [h.endings]

theorem Twins.add (h : t.Twins S t') {c c' : Caller κ α} (hc : c.Twins S c') :
    (t.add c).Twins S (t'.add c') where
  cache := by rw [cache_add, cache_add, h.cache]
  callers := List.rel_append h.callers (.cons hc .nil)
  endings := h.endings

theorem proceed_matches (hR : Session.Pairs R S) (h : t.Twins S t') (k : Nat) (key : κ)
    {c c' : Conversation α} (hc : c.Matches S Eq c') :
    Matches R (t.proceed k key c) (t'.proceed k key c') (Twins S) := by
  cases hc with
  | @done value _ hvalue =>
      subst hvalue
      exact Matches.pure (h.finish k key value)
  | @attempt sent sent' limits next next' hsent hnext =>
      intro s s' hs
      obtain ⟨hsame, hs'⟩ := hR.contact limits hs hsent
      have hstep : t'.proceed k key (.attempt sent' limits next') s' =
          (t'.setStatus k (.busy (s.clock + (s.contact sent limits).1.1)
            (next' (s.contact sent limits).1.2)), (s'.contact sent' limits).2) := by
        rw [hsame, hR.clock hs]
        rfl
      rw [hstep]
      exact ⟨hs', h.setStatus k (.busy (hnext _))⟩
  | @pause ms next next' hnext =>
      intro s s' hs
      have hstep : t'.proceed k key (.pause ms next') s' =
          (t'.setStatus k (.busy (s.clock + ms) next'), s') := by
        rw [hR.clock hs]
        rfl
      rw [hstep]
      exact ⟨hs, h.setStatus k (.busy hnext)⟩

theorem enter_matches (hR : Session.Pairs R S) (h : t.Twins S t') {call call' : Call κ α}
    (hcall : call.Twins S call') : Matches R (t.enter call) (t'.enter call') (Twins S) := by
  intro s s' hs
  have hdeadline : call.patience.map (s.clock + ·) = call'.patience.map (s'.clock + ·) := by
    rw [hcall.patience, hR.clock hs]
  have hadd {status status' : Status α} (hstatus : status.Twins S status') :
      (t.add ⟨call, call.patience.map (s.clock + ·), status⟩).Twins S
        (t'.add ⟨call', call'.patience.map (s'.clock + ·), status'⟩) :=
    h.add ⟨hcall, hdeadline, hstatus⟩
  have hbusy : t.callers.any (Caller.isBusyWith call.key) =
      t'.callers.any (Caller.isBusyWith call.key) :=
    any_eq_of_forall₂ h.callers fun _ _ hc => hc.isBusyWith call.key
  unfold enter
  dsimp only
  rw [get?_cells, get?_cells, ← h.cache, ← hcall.key, ← h.callers.length_eq, ← hbusy]
  split
  · exact ⟨hs, hadd (.answered _)⟩
  · split
    · exact ⟨hs, hadd .waiting⟩
    · exact proceed_matches hR (hadd .waiting) _ _ hcall.computation s s' hs

theorem passTurn_matches (hR : Session.Pairs R S) (h : t.Twins S t') (key : κ) :
    Matches R (t.passTurn key) (t'.passTurn key) (Twins S) := by
  unfold passTurn
  generalize hfound : t.callers.zipIdx.find? _ = first
  generalize hfound' : t'.callers.zipIdx.find? _ = first'
  -- Callers keep their positions, so the same one is the first in line on both sides.
  have hfirst : Option.Rel (fun p q => p.1.Twins S q.1 ∧ p.2 = q.2) first first' := by
    rw [← hfound, ← hfound']
    exact find?_of_forall₂ (forall₂_zipIdx h.callers 0) fun _ _ hc => hc.1.isWaitingFor key
  cases hfirst with
  | none => exact Matches.pure h
  | @some p p' hp =>
      dsimp only
      rw [← hp.2]
      exact proceed_matches hR h _ key hp.1.call.computation

theorem happen_matches (hR : Session.Pairs R S) (h : t.Twins S t') (k : Nat) {c c' : Caller κ α}
    (hc : c.Twins S c') (time : Nat) :
    Matches R (t.happen k c time) (t'.happen k c' time) (Twins S) := by
  obtain ⟨call, deadline, status⟩ := c
  obtain ⟨call', deadline', status'⟩ := c'
  obtain ⟨hcall, -, hstatus⟩ := hc
  have hkey : call.key = call'.key := hcall.key
  unfold happen
  dsimp only
  rw [← hkey]
  cases hstatus with
  | waiting => exact Matches.pure (h.setStatus k .abandoned)
  | busy hrest =>
      dsimp only
      split
      · exact proceed_matches hR h k _ hrest
      · exact passTurn_matches hR (h.setStatus k .abandoned) _
  | _ => exact Matches.pure h

theorem settle_matches (hR : Session.Pairs R S) (steps : Nat) (h : t.Twins S t') :
    Matches R (t.settle steps) (t'.settle steps) (Twins S) := by
  induction steps generalizing t t' with
  | zero => exact Matches.pure h
  | succ steps ih =>
      have hnext := h.next?
      unfold settle
      revert hnext
      generalize t.next? = next
      generalize t'.next? = next'
      intro hnext
      cases hnext with
      | none => exact Matches.pure h
      | @some p p' hp =>
          obtain ⟨k, c, time⟩ := p
          obtain ⟨k', c', time'⟩ := p'
          obtain ⟨rfl, hc, rfl⟩ := hp
          refine (Matches.modify fun s s' hs => ?_).bind fun _ _ _ => ?_
          · rw [hR.clock hs]
            exact hR.setClock _ hs
          · exact (happen_matches hR h _ hc _).bind fun _ _ ht => ih ht

end Table

namespace Cells

variable [BEq κ] {cells cells' : Cells κ α}

theorem compute_matches {R : Session → Session → Prop} (hR : Session.Pairs R S)
    (hcells : cells.values = cells'.values) {calls calls' : List (Call κ α)}
    (h : List.Forall₂ (Call.Twins S) calls calls') (waits : Nat) :
    Matches R (cells.compute waits calls) (cells'.compute waits calls') (Table.Twins S) := by
  unfold compute
  rw [← h.length_eq]
  refine (Matches.foldlM h ?_ ⟨hcells, .nil, rfl⟩).bind fun t t' ht => Table.settle_matches hR _ ht
  exact fun t t' call call' hcall ht => Table.enter_matches hR ht hcall

/-- Whether empty cells are there does not show in what callers get. -/
theorem compute_congr (hcells : cells.values = cells'.values) (waits : Nat)
    (calls : List (Call κ α)) (s : Session) :
    (cells.compute waits calls s).2 = (cells'.compute waits calls s).2 ∧
      (cells.compute waits calls s).1.cache = (cells'.compute waits calls s).1.cache ∧
      (cells.compute waits calls s).1.callers = (cells'.compute waits calls s).1.callers := by
  have hcalls : List.Forall₂ (Call.Twins Eq) calls calls :=
    List.forall₂_same.2 fun call _ => ⟨rfl, rfl, .refl call.computation⟩
  obtain ⟨hs, htwins⟩ := compute_matches .refl hcells hcalls waits s s rfl
  refine ⟨hs, htwins.cache, ?_⟩
  rw [← List.forall₂_eq_eq_eq]
  exact htwins.callers.imp fun _ _ => Caller.Twins.eq

end Cells

end Depot.Cache
