import Depot.Proofs.Candidates
import Mathlib.Data.List.Forall2

/-!
Trying repositories in their order. The first valid copy ends the search, so what comes after it is
not touched; if there is none, the search has a reason for every repository, and the reasons of
those that were not asked are told apart from all others by their words.
-/

namespace Depot.Download

open Http Repository Run Text

variable {c : Configuration} {artifact : Artifact} {text : String} {a : Access} {as : List Access}
  {s s' mid : Session} {attempts : List Attempt} {resolved : Resolved}

/-- All of these repositories were tried in vain, from one session to another, for these
reasons. -/
inductive Fails (c : Configuration) (artifact : Artifact) (text : String) :
    List Access → Session → List Attempt → Session → Prop
  | nil {s : Session} : Fails c artifact text [] s [] s
  | refused {a : Access} {as : List Access} {s s' : Session} {attempts : List Attempt} :
      a.repository.accepts artifact.coordinates.version = false →
      Fails c artifact text as s attempts s' →
      Fails c artifact text (a :: as) s
        (⟨a.uri, disabled artifact.coordinates.version⟩ :: attempts) s'
  | tried {a : Access} {as : List Access} {s mid s' : Session} {reason : String}
      {attempts : List Attempt} : a.repository.accepts artifact.coordinates.version = true →
      tryRepository c a artifact text s = (.error reason, mid) →
      Fails c artifact text as mid attempts s' →
      Fails c artifact text (a :: as) s (⟨a.uri, reason⟩ :: attempts) s'

/-- One more reason before those of the rest, unless the rest has a copy. -/
def addAttempt (attempt : Attempt) : Except (List Attempt) Resolved → Except (List Attempt) Resolved
  | .ok resolved => .ok resolved
  | .error attempts => .error (attempt :: attempts)

theorem tryAll_of_refused (h : a.repository.accepts artifact.coordinates.version = false)
    {outcome : Except (List Attempt) Resolved}
    (hrest : tryAll c artifact text as s = (outcome, s')) :
    tryAll c artifact text (a :: as) s =
      (addAttempt ⟨a.uri, disabled artifact.coordinates.version⟩ outcome, s') := by
  rw [tryAll]
  dsimp only
  rw [if_neg (Bool.not_eq_true _ ▸ h), bind_apply, pure_apply]
  dsimp only
  rw [bind_apply, hrest]
  cases outcome <;> rfl

theorem tryAll_of_error (h : a.repository.accepts artifact.coordinates.version = true)
    {reason : String} (htry : tryRepository c a artifact text s = (.error reason, mid))
    {outcome : Except (List Attempt) Resolved}
    (hrest : tryAll c artifact text as mid = (outcome, s')) :
    tryAll c artifact text (a :: as) s = (addAttempt ⟨a.uri, reason⟩ outcome, s') := by
  rw [tryAll]
  dsimp only
  rw [if_pos h, bind_apply, htry]
  dsimp only
  rw [bind_apply, hrest]
  cases outcome <;> rfl

theorem tryAll_of_ok (h : a.repository.accepts artifact.coordinates.version = true)
    (htry : tryRepository c a artifact text s = (.ok resolved, s')) :
    tryAll c artifact text (a :: as) s = (.ok resolved, s') := by
  rw [tryAll]
  dsimp only
  rw [if_pos h, bind_apply, htry]
  rfl

/-- What the search ends with: the first valid copy, with nothing done after it, or all reasons. -/
theorem tryAll_spec (c : Configuration) (artifact : Artifact) (text : String) (as : List Access)
    (s : Session) :
    (∃ resolved s' before a after attempts mid, tryAll c artifact text as s = (.ok resolved, s') ∧
      as = before ++ a :: after ∧ Fails c artifact text before s attempts mid ∧
        a.repository.accepts artifact.coordinates.version = true ∧
          tryRepository c a artifact text mid = (.ok resolved, s')) ∨
    ∃ attempts s', tryAll c artifact text as s = (.error attempts, s') ∧
      Fails c artifact text as s attempts s' := by
  induction as generalizing s with
  | nil => exact .inr ⟨[], s, rfl, .nil⟩
  | cons a as ih =>
      cases haccepts : a.repository.accepts artifact.coordinates.version with
      | false =>
          obtain ⟨r, s', before, b, after, attempts, mid, hall, rfl, hfails, hb, htry⟩ |
            ⟨attempts, s', hall, hfails⟩ := ih s
          · exact .inl ⟨r, s', a :: before, b, after, _, mid, tryAll_of_refused haccepts hall, rfl,
              .refused haccepts hfails, hb, htry⟩
          · exact .inr ⟨_, s', tryAll_of_refused haccepts hall, .refused haccepts hfails⟩
      | true =>
          cases hfirst : tryRepository c a artifact text s with
          | mk outcome mid =>
              cases outcome with
              | ok r =>
                  exact .inl ⟨r, mid, [], a, as, [], s, tryAll_of_ok haccepts hfirst, rfl, .nil,
                    haccepts, hfirst⟩
              | error reason =>
                  obtain ⟨r, s', before, b, after, attempts, mid', hall, rfl, hfails, hb, htry⟩ |
                    ⟨attempts, s', hall, hfails⟩ := ih mid
                  · exact .inl ⟨r, s', a :: before, b, after, _, mid',
                      tryAll_of_error haccepts hfirst hall, rfl,
                      .tried haccepts hfirst hfails, hb, htry⟩
                  · exact .inr ⟨_, s', tryAll_of_error haccepts hfirst hall,
                      .tried haccepts hfirst hfails⟩

/-- If all fail, the search says so. -/
theorem Fails.tryAll_eq (h : Fails c artifact text as s attempts s') :
    tryAll c artifact text as s = (.error attempts, s') := by
  induction h with
  | nil => rfl
  | refused haccepts _ ih => exact tryAll_of_refused haccepts ih
  | tried haccepts htry _ ih => exact tryAll_of_error haccepts htry ih

/-- The words for versions that a repository is not asked for. -/
def disablings : List String := ["snapshots are disabled", "releases are disabled"]

theorem disabled_mem (version : Version) : disabled version ∈ disablings := by
  unfold disabled
  split <;> decide

/-- Letters that the words for disabled versions do without. -/
def faultLetters : List Char := ['c', 'f', 'u', 'v', 'y']

/-- Something else is told than that versions are disabled. -/
def SpeaksOfFault (reason : String) : Prop := reason.toList.any faultLetters.contains

instance (reason : String) : Decidable (SpeaksOfFault reason) :=
  inferInstanceAs (Decidable (reason.toList.any faultLetters.contains = true))

namespace SpeaksOfFault

variable {front back : String}

theorem append_right (h : SpeaksOfFault front) : SpeaksOfFault (front ++ back) := by
  rw [SpeaksOfFault] at h ⊢
  rw [String.toList_append, List.any_append, h, Bool.true_or]

theorem append_left (h : SpeaksOfFault back) : SpeaksOfFault (front ++ back) := by
  rw [SpeaksOfFault] at h ⊢
  rw [String.toList_append, List.any_append, h, Bool.or_true]

theorem cause (uri : String) (cause : Cause) : SpeaksOfFault (cause.message uri) := by
  cases cause with
  | invalid reason => exact append_right (append_right (append_right (by decide)))
  | timeout => exact append_right (append_right (by decide))
  | noResponse d => exact append_right (append_left (by decide))
  | connect f => exact append_right (append_right (append_right (by decide)))
  | protocol v => exact append_right (append_right (append_right (by decide)))

theorem failure (e : Http.Failure) : SpeaksOfFault e.message := by
  cases e with
  | single uri cause => exact SpeaksOfFault.cause uri cause
  | exhausted uri attempts last => exact append_left (SpeaksOfFault.cause uri last)

theorem fetchError (e : FetchError) : SpeaksOfFault e.message := by
  cases e with
  | status code => exact append_right (by decide)
  | transport f => exact failure f
  | files path error => exact append_right (append_right (append_right (by decide)))

theorem invalid (e : Validation.Invalid) : SpeaksOfFault e.message := by
  cases e with
  | empty path => exact append_left (by decide)
  | checksumMismatch path algorithm => exact append_right (append_left (by decide))
  | malformed path reason => exact append_right (append_left (by decide))
  | missingCompanion path => exact append_right (append_right (by decide))
  | emptyCompanion path => exact append_right (append_right (by decide))
  | companionUnreadable path error => exact append_right (append_right (append_right (by decide)))

theorem notMem_disablings {reason : String} (h : SpeaksOfFault reason) : reason ∉ disablings := by
  intro hmem
  have hnone : ∀ reason ∈ disablings, ¬SpeaksOfFault reason := by decide
  exact hnone reason hmem h

end SpeaksOfFault

/-- What a repository answers with: a copy of its own, or a reason that speaks of a fault. -/
theorem tryRepository_answer (c : Configuration) (a : Access) (artifact : Artifact) (text : String)
    (s : Session) :
    match (tryRepository c a artifact text s).1 with
    | .ok resolved => resolved.repository = a.repository
    | .error reason => SpeaksOfFault reason := by
  let post (outcome : Except String Resolved) : Prop :=
    match outcome with
    | .ok resolved => resolved.repository = a.repository
    | .error reason => SpeaksOfFault reason
  have hkeeps : Keeps (fun _ => True) (tryRepository c a artifact text) post := by
    refine Keeps.bind (Keeps.true _) fun outcome _ => ?_
    split
    · exact Keeps.pure (SpeaksOfFault.fetchError _)
    · exact Keeps.pure (by decide : SpeaksOfFault "not found")
    · refine Keeps.bind (Keeps.true _) fun valid _ => ?_
      split
      · exact Keeps.pure (SpeaksOfFault.invalid _)
      · exact Keeps.pure rfl
  exact (hkeeps s trivial).2

/-- What is told of a repository: its URI, and that versions are disabled exactly where they are. -/
def Accounts (version : Version) (a : Access) (attempt : Attempt) : Prop :=
  attempt.repository = a.uri ∧
    (attempt.reason ∈ disablings ↔ a.repository.accepts version = false) ∧
      (a.repository.accepts version = false → attempt.reason = disabled version)

theorem Fails.accounts (h : Fails c artifact text as s attempts s') :
    List.Forall₂ (Accounts artifact.coordinates.version) as attempts := by
  induction h with
  | nil => exact .nil
  | refused haccepts _ ih =>
      exact .cons ⟨rfl, iff_of_true (disabled_mem _) haccepts, fun _ => rfl⟩ ih
  | @tried a as s mid s' reason attempts haccepts htry _ ih =>
      have hreason := tryRepository_answer c a artifact text s
      rw [htry] at hreason
      refine .cons ⟨rfl, iff_of_false hreason.notMem_disablings ?_, fun hrefused => ?_⟩ ih
      · simp [haccepts]
      · rw [haccepts] at hrefused
        cases hrefused

/-- Bounds on reading copies of an artifact from these repositories alone. -/
def readScope (settings : Settings) (artifact : Artifact) (text : String) (as : List Access) :
    Scope where
  sends sent := ∃ a ∈ as, ∃ base path, a.place = .remote base ∧ Reads artifact text path ∧
    ∃ request : Request, request.method = "GET" ∧ request.uri = base ++ path ∧
      request.prepare settings = .ok sent
  opens file := ∃ a ∈ as, ∃ root path, a.place = .directory root ∧ Reads artifact text path ∧
    file = Files.join root (Utf8.encode path)

theorem covers_readScope (ha : a ∈ as) {path : String} (hpath : Reads artifact text path) :
    (readScope c.settings artifact text as).Covers c.settings a path := by
  cases hplace : a.place with
  | directory root =>
      exact (Scope.covers_directory hplace).2 ⟨a, ha, root, path, hplace, hpath, rfl⟩
  | remote base =>
      refine (Scope.covers_remote hplace).2 fun request hmethod huri sent hsent => ?_
      exact ⟨a, ha, base, path, hplace, hpath, request, hmethod, huri, hsent⟩

theorem within_tryRepository {start : Session} (ha : a ∈ as)
    (hs : Session.Within (readScope c.settings artifact text as) start s) :
    Session.Within (readScope c.settings artifact text as) start
      (tryRepository c a artifact text s).2 :=
  (tryRepository_keeps (Scope.spares_within _ start).toSparesReading
    (fun _ => covers_readScope ha) s hs).1

/-- Only repositories that accept the version are read from. -/
theorem Fails.within (h : Fails c artifact text as s attempts s') {all : List Access}
    (hall : ∀ a ∈ as, a.repository.accepts artifact.coordinates.version = true → a ∈ all)
    {start : Session} (hs : Session.Within (readScope c.settings artifact text all) start s) :
    Session.Within (readScope c.settings artifact text all) start s' := by
  induction h with
  | nil => exact hs
  | refused _ _ ih => exact ih (fun a ha => hall a (List.mem_cons_of_mem _ ha)) hs
  | tried haccepts htry _ ih =>
      refine ih (fun a ha => hall a (List.mem_cons_of_mem _ ha)) ?_
      have hfirst := within_tryRepository (hall _ List.mem_cons_self haccepts) hs
      rwa [htry] at hfirst

/-- The search has a copy only from a repository that accepts the version, after all before it have
failed, and then it has read from no other that comes after. -/
theorem exists_of_tryAll_ok (h : tryAll c artifact text as s = (.ok resolved, s')) :
    ∃ before a after attempts mid, as = before ++ a :: after ∧
      Fails c artifact text before s attempts mid ∧
      a.repository.accepts artifact.coordinates.version = true ∧
      tryRepository c a artifact text mid = (.ok resolved, s') ∧
      resolved.repository = a.repository ∧
      Session.Within (readScope c.settings artifact text ((before ++ [a]).filter
        fun b => b.repository.accepts artifact.coordinates.version)) s s' := by
  obtain ⟨r, s'', before, a, after, attempts, mid, hall, has, hfails, haccepts, htry⟩ |
    ⟨attempts, s'', hall, -⟩ := tryAll_spec c artifact text as s
  · rw [hall] at h
    cases h
    have hrepository := tryRepository_answer c a artifact text mid
    rw [htry] at hrepository
    have hbefore := hfails.within (fun b hb haccepts => List.mem_filter.2
      ⟨List.mem_append_left [a] hb, haccepts⟩) (.refl _ s)
    have ha : a ∈ (before ++ [a]).filter
        fun b => b.repository.accepts artifact.coordinates.version :=
      List.mem_filter.2 ⟨List.mem_append_right before (List.mem_singleton_self a), haccepts⟩
    have hlast := within_tryRepository ha hbefore
    rw [htry] at hlast
    exact ⟨before, a, after, attempts, mid, has, hfails, haccepts, htry, hrepository, hlast⟩
  · rw [hall] at h
    cases h

theorem tryAll_eq_error_iff :
    tryAll c artifact text as s = (.error attempts, s') ↔
      Fails c artifact text as s attempts s' := by
  refine ⟨fun h => ?_, Fails.tryAll_eq⟩
  obtain ⟨r, s'', before, a, after, attempts', mid, hall, -⟩ | ⟨attempts', s'', hall, hfails⟩ :=
    tryAll_spec c artifact text as s
  · rw [hall] at h
    cases h
  · rw [hall] at h
    cases h
    exact hfails

section Candidates

variable {found : Candidates}

theorem usable_addCandidate {r : Repository} (h : (addCandidate c found r s).1.usable = []) :
    found.usable = [] ∧
      (addCandidate c found r s).1.dropped = found.dropped ++ [⟨trim r.uri, unusable⟩] := by
  unfold addCandidate at h ⊢
  rw [bind_apply] at h ⊢
  cases hnormal : (Normalization.normalize c r s).1 with
  | none =>
      rw [hnormal] at h
      exact ⟨h, rfl⟩
  | some r' =>
      rw [hnormal] at h
      dsimp only at h
      split at h
      · rename_i hany
        have hempty : found.usable = [] := h
        rw [hempty] at hany
        cases hany
      · rw [pure_apply] at h
        simp at h

theorem usable_foldlM (rs : List Repository) (found : Candidates) (s : Session)
    (h : (rs.foldlM (addCandidate c) found s).1.usable = []) :
    found.usable = [] ∧ (rs.foldlM (addCandidate c) found s).1.dropped =
      found.dropped ++ rs.map fun r => ⟨trim r.uri, unusable⟩ := by
  induction rs generalizing found s with
  | nil => exact ⟨h, (List.append_nil _).symm⟩
  | cons r rs ih =>
      rw [List.foldlM_cons, bind_apply] at h ⊢
      obtain ⟨hnext, hrest⟩ := ih _ _ h
      obtain ⟨hfound, hdropped⟩ := usable_addCandidate hnext
      refine ⟨hfound, ?_⟩
      rw [hrest, hdropped, List.append_assoc]
      rfl

/-- If no repository can be used, all were dropped. -/
theorem dropped_candidates {preferred : Option Repository} {rs : List Repository}
    (h : (candidates c preferred rs s).1.usable = []) : (candidates c preferred rs s).1.dropped =
      (sources c preferred rs).map fun r => ⟨trim r.uri, unusable⟩ :=
  (usable_foldlM _ _ _ h).2

-- What a verdict says is of no interest here.
attribute [local irreducible] Normalization.verdict

/-- Candidates are among the supplied repositories, in canonical form. -/
theorem canonical_of_mem_usable {preferred : Option Repository} {rs : List Repository} :
    ∀ a ∈ (candidates c preferred rs s).1.usable,
      ∃ r ∈ sources c preferred rs, a = r.canonical.access := by
  let everything : Scope := ⟨fun _ => True, fun _ => True⟩
  have hverdict : ∀ r ∈ sources c preferred rs, everything.CoversVerdict (fun _ => True) c r :=
    fun _ _ => Scope.coversVerdict_of_forall fun _ => trivial
  have hkeeps := candidates_keeps (everything.admits_within (fun _ => True) s) hverdict
  intro a ha
  obtain ⟨r, hr, heq, -⟩ := (hkeeps s ⟨.refl _ s, fun _ _ => trivial⟩).2 a ha
  exact ⟨r, hr, heq⟩

end Candidates

/-- What a search amounts to. If there was nothing to search, what was dropped is told instead. -/
def conclude (artifact : Artifact) (text : String) (found : Candidates) :
    Except (List Attempt) Resolved → Except Failure Resolved
  | .ok resolved => .ok resolved
  | .error attempts => .error
      ⟨Layout.fileName artifact text, if found.usable.isEmpty then found.dropped else attempts⟩

section Conclusion

variable {preferred : Option Repository} {rs : List Repository} {found : Candidates}
  {s₁ s₂ : Session} {failure : Failure}

theorem downloadArtifact_apply (hfound : candidates c preferred rs s = (found, s₁))
    (htext : fileVersion c artifact found.usable s₁ = (text, s₂)) :
    downloadArtifact c artifact preferred rs s =
      (conclude artifact text found (tryAll c artifact text found.usable s₂).1,
        (tryAll c artifact text found.usable s₂).2) := by
  unfold downloadArtifact
  rw [bind_apply, hfound]
  dsimp only
  rw [bind_apply, htext]
  dsimp only
  unfold conclude
  split
  · rename_i hempty
    rw [List.isEmpty_iff.1 hempty]
    rfl
  · rw [bind_apply]
    split <;> rename_i heq <;> rw [heq] <;> rfl

/-- A download has the copy that the search has. -/
theorem downloadArtifact_eq_ok_iff (hfound : candidates c preferred rs s = (found, s₁))
    (htext : fileVersion c artifact found.usable s₁ = (text, s₂)) :
    downloadArtifact c artifact preferred rs s = (.ok resolved, s') ↔
      tryAll c artifact text found.usable s₂ = (.ok resolved, s') := by
  rw [downloadArtifact_apply hfound htext]
  cases hall : tryAll c artifact text found.usable s₂ with
  | mk outcome s'' =>
      cases outcome with
      | ok resolved' =>
          constructor
          · intro h
            cases h
            rfl
          · intro h
            cases h
            rfl
      | error attempts =>
          constructor
          · intro h
            cases h
          · intro h
            cases h

/-- A download fails if all candidates do, and tells what they or the dropped ones are blamed
for. -/
theorem downloadArtifact_eq_error_iff (hfound : candidates c preferred rs s = (found, s₁))
    (htext : fileVersion c artifact found.usable s₁ = (text, s₂)) :
    downloadArtifact c artifact preferred rs s = (.error failure, s') ↔
      ∃ attempts, Fails c artifact text found.usable s₂ attempts s' ∧
        failure = ⟨Layout.fileName artifact text,
          if found.usable.isEmpty then found.dropped else attempts⟩ := by
  rw [downloadArtifact_apply hfound htext]
  cases hall : tryAll c artifact text found.usable s₂ with
  | mk outcome s'' =>
      cases outcome with
      | ok resolved =>
          constructor
          · intro h
            cases h
          · rintro ⟨attempts, hfails, -⟩
            rw [hfails.tryAll_eq] at hall
            cases hall
      | error attempts =>
          rw [tryAll_eq_error_iff] at hall
          constructor
          · intro h
            cases h
            exact ⟨attempts, hall, rfl⟩
          · rintro ⟨attempts', hfails, rfl⟩
            have heq := hall.tryAll_eq.symm.trans hfails.tryAll_eq
            cases heq
            rfl

/-- Nothing is told only if nothing was supplied: candidates that failed and repositories that were
dropped are all told of. -/
theorem sources_eq_nil {attempts : List Attempt}
    (hfails : Fails c artifact text (candidates c preferred rs s).1.usable s₂ attempts s')
    (hnone : (if (candidates c preferred rs s).1.usable.isEmpty then
      (candidates c preferred rs s).1.dropped else attempts) = []) :
    sources c preferred rs = [] := by
  by_cases hempty : (candidates c preferred rs s).1.usable = []
  · rw [if_pos (by simpa using hempty), dropped_candidates hempty] at hnone
    exact List.map_eq_nil_iff.1 hnone
  · rw [if_neg (by simpa using hempty)] at hnone
    have haccounts := hfails.accounts
    rw [hnone] at haccounts
    exact absurd (List.forall₂_nil_right_iff.1 haccounts) hempty

end Conclusion

/-- The first valid copy wins, and nothing is read from repositories behind the one that has it. A
download fails exactly if all candidates fail, and then it tells the reason of each; without
candidates it tells of everything that was supplied. -/
theorem downloadArtifact_firstCopy (c : Configuration) (artifact : Artifact)
    (preferred : Option Repository) (rs : List Repository) (s : Session) :
    let found := (candidates c preferred rs s).1
    let named := fileVersion c artifact found.usable (candidates c preferred rs s).2
    let version := artifact.coordinates.version
    (∀ a ∈ found.usable, ∃ r ∈ sources c preferred rs, a = r.canonical.access) ∧
    (∀ resolved s', downloadArtifact c artifact preferred rs s = (.ok resolved, s') →
      ∃ before a after attempts mid, found.usable = before ++ a :: after ∧
        Fails c artifact named.1 before named.2 attempts mid ∧
        a.repository.accepts version = true ∧
        tryRepository c a artifact named.1 mid = (.ok resolved, s') ∧
        resolved.repository = a.repository ∧
        Session.Within (readScope c.settings artifact named.1
          ((before ++ [a]).filter fun b => b.repository.accepts version)) named.2 s') ∧
    ((∃ failure s', downloadArtifact c artifact preferred rs s = (.error failure, s')) ↔
      ∃ attempts s', Fails c artifact named.1 found.usable named.2 attempts s') ∧
    ∀ failure s', downloadArtifact c artifact preferred rs s = (.error failure, s') →
      failure.target = Layout.fileName artifact named.1 ∧
      (found.usable ≠ [] → Fails c artifact named.1 found.usable named.2 failure.attempts s' ∧
        List.Forall₂ (Accounts version) found.usable failure.attempts) ∧
      (found.usable = [] → failure.attempts = found.dropped ∧ found.dropped =
        (sources c preferred rs).map fun r => ⟨trim r.uri, unusable⟩) ∧
      (failure.attempts = [] → sources c preferred rs = []) := by
  intro found named version
  have hfound : candidates c preferred rs s = (found, (candidates c preferred rs s).2) := rfl
  have hnamed : fileVersion c artifact found.usable (candidates c preferred rs s).2 =
      (named.1, named.2) := rfl
  refine ⟨canonical_of_mem_usable, ?_, ?_, ?_⟩
  · intro resolved s' h
    exact exists_of_tryAll_ok ((downloadArtifact_eq_ok_iff hfound hnamed).1 h)
  · constructor
    · rintro ⟨failure, s', h⟩
      obtain ⟨attempts, hfails, -⟩ := (downloadArtifact_eq_error_iff hfound hnamed).1 h
      exact ⟨attempts, s', hfails⟩
    · rintro ⟨attempts, s', hfails⟩
      exact ⟨_, s', (downloadArtifact_eq_error_iff hfound hnamed).2 ⟨attempts, hfails, rfl⟩⟩
  · intro failure s' h
    obtain ⟨attempts, hfails, rfl⟩ := (downloadArtifact_eq_error_iff hfound hnamed).1 h
    refine ⟨rfl, fun hne => ?_, fun hempty => ?_, sources_eq_nil hfails⟩
    · rw [if_neg (by simpa using hne)]
      exact ⟨hfails, hfails.accounts⟩
    · rw [if_pos (by simpa using hempty)]
      exact ⟨rfl, dropped_candidates hempty⟩

end Depot.Download
