import Depot.Proofs.Scope
import Mathlib.Data.List.Forall2

/-!
How often a request is sent. Conversations are run against the outcomes that their attempts have, one
after the other: what is done, and with which value it ends. Sending a request makes attempts up to
the first outcome that is no transient failure, with a pause between two of them, and no more than
the policy allows. It is the same loop that counts failed attempts in 32 bits, and that count never
gets too large.
-/

namespace Depot.Http

namespace Conversation

variable {α β : Type}

inductive Act
  | attempt (sent : Sent) (limits : Limits)
  | pause (ms : Nat)
deriving DecidableEq, Repr

def Act.sent? : Act → Option Sent
  | attempt sent _ => some sent
  | pause _ => none

/-- What is done, and the value in the end, if attempts have these outcomes. -/
def course : Conversation α → (Nat → Except Cause Response) → List Act × α
  | done a, _ => ([], a)
  | attempt sent limits next, outcomes =>
      let rest := (next (outcomes 0)).course fun n => outcomes (n + 1)
      (.attempt sent limits :: rest.1, rest.2)
  | pause ms next, outcomes =>
      let rest := next.course outcomes
      (.pause ms :: rest.1, rest.2)

/-- The requests that are sent in a course, the first one first. -/
def sentIn (c : Conversation α) (outcomes : Nat → Except Cause Response) : List Sent :=
  (c.course outcomes).1.filterMap Act.sent?

/-- Whoever holds a conversation takes the course of the outcomes that its attempts meet, and each
attempt leaves one trace in the record. -/
theorem exists_course (c : Conversation α) (s : Session) :
    ∃ outcomes, (Session.hold c s).1 = (c.course outcomes).2 ∧
      ∃ more, (Session.hold c s).2.contacts = s.contacts ++ more ∧
        List.Forall₂ Contact.Shows (c.sentIn outcomes) more := by
  induction c generalizing s with
  | done a => exact ⟨fun _ => .error .timeout, rfl, [], (List.append_nil _).symm, .nil⟩
  | attempt sent limits next ih =>
      obtain ⟨contact, hshows, htouch⟩ := s.contact_eq_touch sent limits
      obtain ⟨outcomes, hvalue, more, hmore, hall⟩ := ih (s.contact sent limits).1.2
        ((s.contact sent limits).2.wait (s.contact sent limits).1.1)
      let met (n : Nat) : Except Cause Response :=
        n.casesOn (s.contact sent limits).1.2 outcomes
      refine ⟨met, hvalue, contact :: more, hmore.trans ?_, .cons hshows hall⟩
      rw [htouch, Session.wait, Session.touch, List.append_assoc, List.singleton_append]
  | pause ms next ih => exact ih (s.wait ms)

/-- A course of two parts: the second one meets the outcomes that the first one has left. -/
theorem course_bind (c : Conversation α) (f : α → Conversation β)
    (outcomes : Nat → Except Cause Response) :
    (c.bind f).course outcomes =
      let first := c.course outcomes
      let second := (f first.2).course fun n => outcomes (n + (c.sentIn outcomes).length)
      (first.1 ++ second.1, second.2) := by
  induction c generalizing outcomes with
  | done a => rfl
  | attempt sent limits next ih =>
      have hrest := ih (outcomes 0) fun n => outcomes (n + 1)
      simp only [Nat.add_assoc] at hrest
      rw [bind, course, hrest]
      rfl
  | pause ms next ih =>
      rw [bind, course, ih outcomes]
      rfl

theorem sentIn_bind (c : Conversation α) (f : α → Conversation β)
    (outcomes : Nat → Except Cause Response) :
    (c.bind f).sentIn outcomes = c.sentIn outcomes ++
      (f (c.course outcomes).2).sentIn fun n => outcomes (n + (c.sentIn outcomes).length) := by
  rw [sentIn, course_bind, List.filterMap_append]
  rfl

section Tries

def isTransientFailure : Except Cause Response → Bool
  | .ok _ => false
  | .error cause => cause.isTransient

/-- The smaller of `limit` and the position, counted from one, of the first outcome that is no
transient failure. -/
def tries (limit : Nat) (outcomes : Nat → Except Cause Response) : Nat :=
  min limit ((List.range limit).findIdx (fun n => !isTransientFailure (outcomes n)) + 1)

theorem tries_le (limit : Nat) (outcomes : Nat → Except Cause Response) :
    tries limit outcomes ≤ limit := Nat.min_le_left _ _

theorem tries_pos (limit : Nat) (outcomes : Nat → Except Cause Response) :
    ∃ n, tries (limit + 1) outcomes = n + 1 :=
  Nat.exists_eq_succ_of_ne_zero (by unfold tries; omega)

theorem tries_succ (limit : Nat) (outcomes : Nat → Except Cause Response) :
    tries (limit + 1) outcomes =
      if isTransientFailure (outcomes 0) then tries limit (fun n => outcomes (n + 1)) + 1 else 1 := by
  unfold tries
  rw [List.range_succ_eq_map, List.findIdx_cons, List.findIdx_map]
  cases isTransientFailure (outcomes 0) with
  | false => simp
  | true =>
      simp only [Bool.not_true, cond_false, if_true, Nat.add_min_add_right]
      rfl

theorem tries_of_final {limit : Nat} {outcomes : Nat → Except Cause Response}
    (h : isTransientFailure (outcomes 0) = false) : tries (limit + 1) outcomes = 1 := by
  rw [tries_succ, h, if_neg Bool.false_ne_true]

theorem isTransientFailure_of_terminal {cause : Cause} (h : cause.failureClass = .terminal) :
    isTransientFailure (.error cause) = false := by
  rw [isTransientFailure, Cause.isTransient, h]
  rfl

theorem isTransientFailure_of_transient {cause : Cause} (h : cause.failureClass = .transient) :
    isTransientFailure (.error cause) = true := by
  rw [isTransientFailure, Cause.isTransient, h]
  rfl

end Tries

/-- What a request comes to whose last attempt, with this number, had this outcome. -/
def conclusion (uri : String) (made : Nat) : Except Cause Response → Outcome
  | .ok response => .ok response
  | .error cause => .error (givenUp uri made cause)

/-- What is done in attempts with a pause between two of them. -/
def rounds (ms : Nat) (each : List (List Act)) : List Act := (each.intersperse [.pause ms]).flatten

theorem rounds_replicate (ms n : Nat) (acts : List Act) :
    rounds ms (List.replicate (n + 2) acts) =
      acts ++ .pause ms :: rounds ms (List.replicate (n + 1) acts) := by
  simp [rounds, List.replicate_succ]

theorem rounds_singleton (ms : Nat) (acts : List Act) : rounds ms [acts] = acts := by
  simp [rounds]

theorem filterMap_rounds (ms : Nat) (each : List (List Act)) :
    (rounds ms each).filterMap Act.sent? = each.flatMap (List.filterMap Act.sent?) := by
  rw [rounds]
  induction each with
  | nil => rfl
  | cons acts each ih =>
      cases each with
      | nil => simp
      | cons acts' each =>
          simp only [List.intersperse_cons_cons, List.flatten_cons, List.filterMap_append] at ih ⊢
          rw [ih, List.flatMap_cons]
          rfl

variable {settings : Settings} {request : Request}

/-- The number of the attempt that comes next is counted up while that of those that may follow is
counted down. -/
theorem attempts_course (uri : String) (sent : Sent) {left : Nat}
    (hleft : left + 1 ≤ settings.retry.limit) (outcomes : Nat → Except Cause Response) :
    (attempts settings uri sent left).course outcomes =
      (rounds settings.retry.delay
          (List.replicate (tries (left + 1) outcomes) [.attempt sent settings.limits]),
        conclusion uri (settings.retry.limit - (left + 1) + tries (left + 1) outcomes)
          (outcomes (tries (left + 1) outcomes - 1))) := by
  induction left generalizing outcomes with
  | zero =>
      have hone : tries 1 outcomes = 1 := by simp [tries]
      have hmade : settings.retry.limit - 1 + 1 = settings.retry.limit := by omega
      rw [hone, attempts, course, List.replicate_one, rounds_singleton, Nat.zero_add, hmade]
      cases outcomes 0 <;> rfl
  | succ left ih =>
      have hmade : settings.retry.limit - (left + 1 + 1) + 1 =
          settings.retry.limit - (left + 1) := by omega
      rw [attempts, course]
      cases houtcome : outcomes 0 with
      | ok response =>
          rw [tries_of_final (congrArg isTransientFailure houtcome), List.replicate_one,
            rounds_singleton, houtcome]
          rfl
      | error cause =>
          cases hclass : cause.failureClass with
          | terminal =>
              have hfinal : isTransientFailure (outcomes 0) = false :=
                houtcome ▸ isTransientFailure_of_terminal hclass
              rw [tries_of_final hfinal, List.replicate_one, rounds_singleton, hmade, houtcome]
              simp only [hclass, RetryPolicy.decide]
              rfl
          | transient =>
              have hagain : isTransientFailure (outcomes 0) = true :=
                houtcome ▸ isTransientFailure_of_transient hclass
              have hmore : settings.retry.limit - (left + 1) < settings.retry.limit := by omega
              obtain ⟨n, hn⟩ := tries_pos left fun n => outcomes (n + 1)
              have hnumber : settings.retry.limit - (left + 1 + 1) + (n + 2) =
                  settings.retry.limit - (left + 1) + (n + 1) := by omega
              have hrest := ih (by omega) fun n => outcomes (n + 1)
              rw [hn, Nat.add_sub_cancel] at hrest
              rw [tries_succ, if_pos hagain, hn, rounds_replicate, hnumber]
              simp only [hclass, RetryPolicy.decide, if_pos hmore, course, hrest]
              rfl

theorem sentIn_attempts (uri : String) (sent : Sent) {left : Nat}
    (hleft : left + 1 ≤ settings.retry.limit) (outcomes : Nat → Except Cause Response) :
    (attempts settings uri sent left).sentIn outcomes =
      List.replicate (tries (left + 1) outcomes) sent := by
  rw [sentIn, attempts_course uri sent hleft, filterMap_rounds, List.flatMap_replicate]
  exact List.flatten_replicate_singleton

theorem length_sentIn_send_le (outcomes : Nat → Except Cause Response) :
    ((send settings request).sentIn outcomes).length ≤ settings.retry.limit := by
  have hpos : 1 ≤ settings.retry.limit := Nat.le_max_left 1 _
  rw [send]
  split
  · exact Nat.zero_le _
  · rw [sentIn_attempts _ _ (by omega), List.length_replicate, Nat.sub_add_cancel hpos]
    exact tries_le _ _

/-- One attempt. A request that is not valid fails before anything is sent. -/
def sendOnce (settings : Settings) (request : Request) : Conversation (Except Cause Response) :=
  match request.prepare settings with
  | .error reason => done (.error (.invalid reason))
  | .ok sent => attempt sent settings.limits done

theorem send_course (settings : Settings) (request : Request)
    (outcomes : Nat → Except Cause Response) :
    let once (n : Nat) := (sendOnce settings request).course fun _ => outcomes n
    let k := tries settings.retry.limit fun n => (once n).2
    (send settings request).course outcomes =
      (rounds settings.retry.delay ((List.range k).map fun n => (once n).1),
        conclusion request.uri k (once (k - 1)).2) := by
  intro once k
  obtain ⟨left, hleft⟩ : ∃ left, settings.retry.limit = left + 1 :=
    Nat.exists_eq_succ_of_ne_zero (Nat.ne_of_gt (Nat.le_max_left 1 _))
  cases hprepare : request.prepare settings with
  | error reason =>
      have honce (n : Nat) : once n = ([], .error (.invalid reason)) := by
        simp only [once, sendOnce, hprepare, course]
      have hk : k = 1 := by
        simp only [k, honce, hleft, tries_succ]
        rfl
      simp only [hk, honce, send, hprepare]
      rfl
  | ok sent =>
      have honce (n : Nat) : once n = ([.attempt sent settings.limits], outcomes n) := by
        simp only [once, sendOnce, hprepare, course]
      have hcourse := attempts_course request.uri sent (Nat.le_of_eq hleft.symm) outcomes
      simp only [send, hprepare, k, honce, hleft, Nat.add_sub_cancel] at hcourse ⊢
      rw [hcourse, List.map_const', List.length_range, Nat.sub_self, Nat.zero_add]

end Conversation

namespace RetryPolicy

/-- Counts a failed attempt in 32 bits and says what follows; nothing if the count does not fit. The
pauses are those of a backoff, which may come to its end. -/
def onFailure? (p : RetryPolicy) (backoff : Nat → Option Nat) (failed : UInt32)
    (c : FailureClass) : Option (UInt32 × Decision) :=
  if failed.toNat + 1 < UInt32.size then
    match c with
    | .terminal => some (failed + 1, .giveUp)
    | .transient =>
        if p.limit ≤ (failed + 1).toNat then some (failed + 1, .giveUp)
        else some (failed + 1, .retryAfter ((backoff failed.toNat).getD 0))
  else none

variable {p : RetryPolicy} {backoff : Nat → Option Nat} {failed : UInt32}

theorem toNat_count (h : failed.toNat + 1 < UInt32.size) :
    (failed + 1).toNat = failed.toNat + 1 := by
  rw [UInt32.toNat_add]
  exact Nat.mod_eq_of_lt h

theorem lt_of_onFailure? {c : FailureClass} {failed' : UInt32} {ms : Nat}
    (h : p.onFailure? backoff failed c = some (failed', .retryAfter ms)) :
    failed'.toNat = failed.toNat + 1 ∧ failed'.toNat < p.limit := by
  unfold onFailure? at h
  split at h
  · rename_i hfits
    cases c with
    | terminal => cases h
    | transient =>
        dsimp only at h
        split at h
        · cases h
        · rename_i hlt
          cases h
          exact ⟨toNat_count hfits, Nat.lt_of_not_le hlt⟩
  · cases h

/-- With a count that fits, a failure is decided on as it is by its number. -/
theorem onFailure?_eq (hbackoff : ∀ n, backoff n = some p.delay)
    (hfits : failed.toNat + 1 < UInt32.size) (c : FailureClass) :
    p.onFailure? backoff failed c = some (failed + 1, p.decide (failed.toNat + 1) c) := by
  unfold onFailure?
  rw [if_pos hfits]
  cases c with
  | terminal => rfl
  | transient =>
      dsimp only [decide]
      rw [toNat_count hfits, hbackoff]
      by_cases hlt : failed.toNat + 1 < p.limit
      · rw [if_neg (Nat.not_le_of_lt hlt), if_pos hlt]
        rfl
      · rw [if_pos (Nat.le_of_not_lt hlt), if_neg hlt]

end RetryPolicy

namespace Conversation

/-- Sends a request until there is a response or the policy gives up, and counts the attempts that
fail; ends with nothing if the count does not fit into 32 bits. -/
def sendCounting (settings : Settings) (backoff : Nat → Option Nat) (request : Request)
    (failed : UInt32) : Conversation (Option Outcome) :=
  (sendOnce settings request).bind fun
    | .ok response => done (some (.ok response))
    | .error cause =>
        match _h : settings.retry.onFailure? backoff failed cause.failureClass with
        | none => done none
        | some (failed, .giveUp) =>
            done (some (.error (givenUp request.uri failed.toNat cause)))
        | some (failed, .retryAfter ms) =>
            pause ms (sendCounting settings backoff request failed)
termination_by settings.retry.limit - failed.toNat
decreasing_by
  have hcount := RetryPolicy.lt_of_onFailure? _h
  omega

/-- One round of the loop, with a count that fits. -/
theorem sendCounting_of_fits {backoff : Nat → Option Nat}
    (hbackoff : ∀ n, backoff n = some settings.retry.delay) {failed : UInt32}
    (hfits : failed.toNat + 1 < UInt32.size) :
    sendCounting settings backoff request failed =
      (sendOnce settings request).bind fun
        | .ok response => done (some (.ok response))
        | .error cause =>
            match settings.retry.decide (failed.toNat + 1) cause.failureClass with
            | .giveUp => done (some (.error (givenUp request.uri (failed.toNat + 1) cause)))
            | .retryAfter ms => pause ms (sendCounting settings backoff request (failed + 1)) := by
  rw [sendCounting]
  refine congrArg _ (funext fun outcome => ?_)
  cases outcome with
  | ok response => rfl
  | error cause =>
      have hdecided := RetryPolicy.onFailure?_eq hbackoff hfits cause.failureClass
      dsimp only
      split
      · rename_i h
        rw [h] at hdecided
        cases hdecided
      · rename_i h
        rw [h, Option.some.injEq, Prod.mk.injEq] at hdecided
        rw [← hdecided.2, hdecided.1, RetryPolicy.toNat_count hfits]
      · rename_i h
        rw [h, Option.some.injEq, Prod.mk.injEq] at hdecided
        rw [← hdecided.2, hdecided.1]

variable {backoff : Nat → Option Nat}

/-- With the count of failed attempts the same is decided as with the number of attempts that may
still follow. -/
theorem sendCounting_eq_attempts (hbackoff : ∀ n, backoff n = some settings.retry.delay)
    (hlimit : settings.retry.limit < UInt32.size) {sent : Sent}
    (hprepare : request.prepare settings = .ok sent) {left : Nat} {failed : UInt32}
    (hleft : failed.toNat + (left + 1) = settings.retry.limit) :
    sendCounting settings backoff request failed =
      (attempts settings request.uri sent left).map some := by
  have honce : sendOnce settings request = attempt sent settings.limits done := by
    rw [sendOnce, hprepare]
  induction left generalizing failed with
  | zero =>
      rw [sendCounting_of_fits hbackoff (by omega), honce, attempts]
      refine congrArg (attempt sent settings.limits) (funext fun outcome => ?_)
      cases outcome with
      | ok response => rfl
      | error cause =>
          have hlast : ¬failed.toNat + 1 < settings.retry.limit := by omega
          have hmade : failed.toNat + 1 = settings.retry.limit := by omega
          cases hclass : cause.failureClass with
          | terminal => simp only [bind, hclass, RetryPolicy.decide, hmade]
          | transient =>
              simp only [bind, hclass, RetryPolicy.decide, if_neg hlast]
              rw [hmade]
  | succ left ih =>
      have hfits : failed.toNat + 1 < UInt32.size := by omega
      have hcount := RetryPolicy.toNat_count hfits
      have hmade : settings.retry.limit - (left + 1) = failed.toNat + 1 := by omega
      rw [sendCounting_of_fits hbackoff hfits, honce, attempts]
      refine congrArg (attempt sent settings.limits) (funext fun outcome => ?_)
      cases outcome with
      | ok response => rfl
      | error cause =>
          simp only [bind, hmade]
          cases settings.retry.decide (failed.toNat + 1) cause.failureClass with
          | giveUp => rfl
          | retryAfter ms => exact congrArg (pause ms) (ih (by omega))

theorem sendCounting_eq_send (hmax : settings.retry.maxAttempts < UInt32.size)
    (hbackoff : ∀ n, backoff n = some settings.retry.delay) (request : Request) :
    sendCounting settings backoff request 0 = (send settings request).map some := by
  have hlimit : settings.retry.limit < UInt32.size := Nat.max_lt.2 ⟨by decide, hmax⟩
  have hpos : 1 ≤ settings.retry.limit := Nat.le_max_left 1 _
  cases hprepare : request.prepare settings with
  | error reason =>
      rw [sendCounting_of_fits hbackoff (by decide), sendOnce, send, hprepare]
      rfl
  | ok sent =>
      have hleft : (0 : UInt32).toNat + (settings.retry.limit - 1 + 1) = settings.retry.limit :=
        (Nat.zero_add _).trans (Nat.sub_add_cancel hpos)
      rw [sendCounting_eq_attempts hbackoff hlimit hprepare hleft, send, hprepare]

/-- A request is sent in as many attempts as it takes to get an outcome that is no transient failure,
and at least once and at most as often as is allowed; between two attempts there is a pause. The last
outcome is that of the whole, but a transient failure is told as the last of all attempts, which is
not transient. Failed attempts can be counted in 32 bits, if a backoff always has the pause that is
configured. -/
theorem send_retries (hmax : settings.retry.maxAttempts < UInt32.size)
    (hbackoff : ∀ n, backoff n = some settings.retry.delay) (request : Request)
    (outcomes : Nat → Except Cause Response) :
    let once (n : Nat) := (sendOnce settings request).course fun _ => outcomes n
    let k := tries (max 1 settings.retry.maxAttempts) fun n => (once n).2
    let whole := (send settings request).course outcomes
    sendCounting settings backoff request 0 = (send settings request).map some ∧
      whole.1 = rounds settings.retry.delay ((List.range k).map fun n => (once n).1) ∧
      whole.2 = (match (once (k - 1)).2 with
        | .ok response => .ok response
        | .error cause =>
            .error (if cause.isTransient then .exhausted request.uri k cause
              else .single request.uri cause)) ∧
      ∀ failure, whole.2 = .error failure → failure.isTransient = false := by
  intro once k whole
  have hwhole : whole =
      (rounds settings.retry.delay ((List.range k).map fun n => (once n).1),
        conclusion request.uri k (once (k - 1)).2) := send_course settings request outcomes
  refine ⟨sendCounting_eq_send hmax hbackoff request, congrArg Prod.fst hwhole,
    (congrArg Prod.snd hwhole).trans ?_, fun failure hfailure => ?_⟩
  · cases (once (k - 1)).2 <;> rfl
  · rw [hwhole] at hfailure
    cases hlast : (once (k - 1)).2 with
    | ok response =>
        rw [hlast] at hfailure
        cases hfailure
    | error cause =>
        rw [hlast] at hfailure
        cases hfailure
        unfold givenUp
        split
        · rfl
        · rename_i hterminal
          exact (Bool.not_eq_true _).mp hterminal

/-- Two attempts without a response, and then one that is refused. -/
theorem send_retries_twice :
    let settings : Settings := { retry := ⟨3, 500⟩ }
    let outcomes (n : Nat) : Except Cause Response :=
      if n < 2 then .error .timeout else .ok ⟨503, [], []⟩
    let sent : Sent :=
      ⟨"GET", "http", "a.b", "/", [⟨"user-agent", Text.Utf8.encode "curl/7.68.0"⟩]⟩
    let limits : Limits := ⟨10000, 30000⟩
    settings.retry.maxAttempts < UInt32.size ∧
      (send settings (.get "http://a.b/")).course outcomes =
        ([.attempt sent limits, .pause 500, .attempt sent limits, .pause 500, .attempt sent limits],
          .ok ⟨503, [], []⟩) := by
  intro settings outcomes sent limits
  have hmax : settings.retry.maxAttempts < UInt32.size := by decide
  have hbackoff : ∀ n, (fun _ : Nat => some 500) n = some settings.retry.delay := fun _ => rfl
  have hprepare : (Request.get "http://a.b/").prepare settings = .ok sent := by decide +kernel
  obtain ⟨-, hacts, hvalue, -⟩ := send_retries hmax hbackoff (.get "http://a.b/") outcomes
  simp only [sendOnce, hprepare, course] at hacts hvalue
  exact ⟨hmax, Prod.ext hacts hvalue⟩

end Conversation

end Depot.Http
