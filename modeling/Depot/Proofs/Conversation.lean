import Depot.Http.Conversation

/-!
What a conversation sends whatever the outcomes of its attempts are, what it ends with, and how
often it has to wait before. All attempts of a negotiation are for the request that it was begun
with: only headers are added.
-/

namespace Depot.Http.Conversation

variable {α β : Type} {P : Sent → Prop} {Q : α → Prop}

/-- Attempts send only what `P` holds of, and the end is a value that `Q` holds of. -/
def Sends (P : Sent → Prop) (Q : α → Prop) : Conversation α → Prop
  | done a => Q a
  | attempt sent _ next => P sent ∧ ∀ outcome, Sends P Q (next outcome)
  | pause _ next => Sends P Q next

theorem sends_of_forall (hP : ∀ sent, P sent) (hQ : ∀ a, Q a) (c : Conversation α) :
    c.Sends P Q := by
  induction c with
  | done a => exact hQ a
  | attempt sent limits next ih => exact ⟨hP sent, ih⟩
  | pause ms next ih => exact ih

theorem Sends.mono {P' : Sent → Prop} {c : Conversation α} (hc : c.Sends P Q)
    (h : ∀ sent, P sent → P' sent) : c.Sends P' Q := by
  induction c with
  | done a => exact hc
  | attempt sent limits next ih => exact ⟨h sent hc.1, fun outcome => ih outcome (hc.2 outcome)⟩
  | pause ms next ih => exact ih hc

theorem Sends.bind {R : β → Prop} {c : Conversation α} {f : α → Conversation β}
    (hc : c.Sends P Q) (hf : ∀ a, Q a → (f a).Sends P R) : (c.bind f).Sends P R := by
  induction c with
  | done a => exact hf a hc
  | attempt sent limits next ih => exact ⟨hc.1, fun outcome => ih outcome (hc.2 outcome)⟩
  | pause ms next ih => exact ih hc

theorem attempts_sends {settings : Settings} {uri : String} {sent : Sent} (h : P sent)
    (left : Nat) : (attempts settings uri sent left).Sends P fun _ => True := by
  induction left with
  | zero =>
      refine ⟨h, fun outcome => ?_⟩
      cases outcome <;> trivial
  | succ left ih =>
      refine ⟨h, fun outcome => ?_⟩
      cases outcome with
      | ok response => trivial
      | error cause =>
          dsimp only
          split
          · exact ih
          · trivial

theorem send_sends {settings : Settings} {request : Request}
    (h : ∀ sent, request.prepare settings = .ok sent → P sent) :
    (send settings request).Sends P fun _ => True := by
  unfold send
  split
  · trivial
  · rename_i sent hsent
    exact attempts_sends (h sent hsent) _

theorem negotiate_sends {settings : Settings} {lookup : String → Option String}
    {request : Request} {credentials : Option Credentials}
    (h : ∀ r : Request, r.method = request.method → r.uri = request.uri →
      ∀ sent, r.prepare settings = .ok sent → P sent) :
    (negotiate settings lookup request credentials).Sends P fun _ => True := by
  have hplain := send_sends (h request rfl rfl)
  unfold negotiate
  split
  · exact hplain
  · split
    · exact hplain
    · rename_i authorization _
      apply Sends.bind (send_sends (h (request.withHeader authorization) rfl rfl))
      intro outcome _
      unfold askAgain
      split
      · split
        · exact hplain
        · trivial
      · trivial

/-- What can be left of a conversation when it has waited once. -/
inductive Leaves : Conversation α → Conversation α → Prop
  | attempt (sent : Sent) (limits : Limits) (next : Except Cause Response → Conversation α)
      (outcome : Except Cause Response) : Leaves (.attempt sent limits next) (next outcome)
  | pause (ms : Nat) (next : Conversation α) : Leaves (.pause ms next) next

/-- With some outcomes of its attempts the conversation ends with this value. -/
inductive Yields : Conversation α → α → Prop
  | done (a : α) : Yields (.done a) a
  | step {c rest : Conversation α} {a : α} : c.Leaves rest → Yields rest a → Yields c a

/-- There are at most this many attempts and pauses, whatever the outcomes are. -/
def WaitsAtMost : Conversation α → Nat → Prop
  | done _, _ => True
  | attempt _ _ next, n => 0 < n ∧ ∀ outcome, (next outcome).WaitsAtMost (n - 1)
  | pause _ next, n => 0 < n ∧ next.WaitsAtMost (n - 1)

theorem WaitsAtMost.of_leaves {c rest : Conversation α} {n : Nat} (h : c.WaitsAtMost n)
    (hleaves : c.Leaves rest) : ∃ m, n = m + 1 ∧ rest.WaitsAtMost m := by
  cases hleaves with
  | attempt sent limits next outcome =>
      have hpos : 0 < n := h.1
      exact ⟨n - 1, by omega, h.2 outcome⟩
  | pause ms next =>
      have hpos : 0 < n := h.1
      exact ⟨n - 1, by omega, h.2⟩

theorem WaitsAtMost.mono {c : Conversation α} {m n : Nat} (h : c.WaitsAtMost m) (hle : m ≤ n) :
    c.WaitsAtMost n := by
  induction c generalizing m n with
  | done a => trivial
  | attempt sent limits next ih =>
      have hpos : 0 < m := h.1
      exact ⟨by omega, fun outcome => ih outcome (h.2 outcome) (by omega)⟩
  | pause ms next ih =>
      have hpos : 0 < m := h.1
      exact ⟨by omega, ih h.2 (by omega)⟩

theorem WaitsAtMost.bind {c : Conversation α} {f : α → Conversation β} {m n : Nat}
    (hc : c.WaitsAtMost m) (hf : ∀ a, (f a).WaitsAtMost n) : (c.bind f).WaitsAtMost (m + n) := by
  induction c generalizing m with
  | done a => exact (hf a).mono (Nat.le_add_left n m)
  | attempt sent limits next ih =>
      have hpos : 0 < m := hc.1
      exact ⟨by omega, fun outcome => (ih outcome (hc.2 outcome)).mono (by omega)⟩
  | pause ms next ih =>
      have hpos : 0 < m := hc.1
      exact ⟨by omega, (ih hc.2).mono (by omega)⟩

/-- An attempt for each number, and a pause between two of them. -/
theorem attempts_waitsAtMost (settings : Settings) (uri : String) (sent : Sent) (left : Nat) :
    (attempts settings uri sent left).WaitsAtMost (2 * left + 1) := by
  induction left with
  | zero =>
      refine ⟨Nat.succ_pos _, fun outcome => ?_⟩
      cases outcome <;> trivial
  | succ left ih =>
      refine ⟨Nat.succ_pos _, fun outcome => ?_⟩
      cases outcome with
      | ok response => trivial
      | error cause =>
          dsimp only
          split
          · exact ⟨by omega, ih.mono (by omega)⟩
          · trivial

theorem send_waitsAtMost (settings : Settings) (request : Request) :
    (send settings request).WaitsAtMost (2 * settings.retry.limit - 1) := by
  have hlimit : 1 ≤ settings.retry.limit := Nat.le_max_left 1 _
  unfold send
  split
  · trivial
  · exact (attempts_waitsAtMost settings request.uri _ _).mono (by omega)

theorem negotiate_waitsAtMost (settings : Settings) (lookup : String → Option String)
    (request : Request) (credentials : Option Credentials) :
    (negotiate settings lookup request credentials).WaitsAtMost (4 * settings.retry.limit) := by
  have hplain := send_waitsAtMost settings request
  unfold negotiate
  split
  · exact hplain.mono (by omega)
  · split
    · exact hplain.mono (by omega)
    · refine (WaitsAtMost.bind (send_waitsAtMost settings _) fun outcome => ?_).mono
        (m := 2 * settings.retry.limit - 1 + (2 * settings.retry.limit - 1)) (by omega)
      unfold askAgain
      split
      · split
        · exact hplain
        · trivial
      · trivial

end Depot.Http.Conversation
