import Depot.Proofs.Candidates
import Depot.Proofs.Locations

/-!
The host policy is never bypassed. Verdicts are kept for a URI and reached on whatever description
comes first, so what makes a request safe is not that its own repository was checked, but that no
verdict was ever reached on a URI that the policy refuses.
-/

namespace Depot

open Http Normalization Repository Run

/-- Repositories with this URI may be asked over the network. -/
def Configuration.Permits (c : Configuration) (uri : String) : Prop :=
  ∃ u, Url.parse uri = .ok u ∧ (u.scheme = "http" ∨ u.scheme = "https") ∧
    c.hostPolicy.check u = none

/-- Repositories with this URI may be used: they are permitted, or directories of the file
system. -/
def Configuration.Admits (c : Configuration) (uri : String) : Prop :=
  c.Permits uri ∨ ∃ u root, Url.parse uri = .ok u ∧ u.scheme = "file" ∧
    ∀ r : Repository, r.uri = uri → r.localPath? = some root

/-- Requests for a repository with this URI: whether it is there, and for its files. -/
inductive Http.Request.IsFor (uri : String) (request : Request) : Prop
  | probe : request.method = "HEAD" → request.uri = uri → IsFor uri request
  | file (path : String) : request.method = "GET" → request.uri = uri ++ "/" ++ path →
      IsFor uri request

/-- What may be sent on behalf of an operation that was supplied with these repositories. -/
def Configuration.MaySend (c : Configuration) (supplied : List Repository) (sent : Sent) : Prop :=
  ∃ r ∈ supplied, c.Permits r.canonical.uri ∧
    ∃ request : Request, request.IsFor r.canonical.uri ∧ request.prepare c.settings = .ok sent

/-- Bounds on the network alone. -/
def Configuration.networkScope (c : Configuration) (supplied : List Repository) : Scope where
  sends := c.MaySend supplied
  opens _ := True

variable {c : Configuration} {supplied : List Repository}

-- Canonical URIs are compared by name. Unfolding them means trimming text.
attribute [local irreducible] canonical

theorem coversVerdict_networkScope {r : Repository} (hr : r ∈ supplied) :
    (c.networkScope supplied).CoversVerdict (fun key => c.Admits key.uri) c r := by
  intro lookup
  unfold verdict
  split
  · exact fun h => nomatch h
  · rename_i u hu
    split
    · rename_i hfile
      intro hlocal
      obtain ⟨root, hroot⟩ := Option.isSome_iff_exists.1 hlocal
      refine .inr ⟨u, root, hu, by simpa using hfile, fun r' hr' => ?_⟩
      rw [← hroot]
      exact localPath?_congr hr'
    · split
      · rename_i hhttp
        split
        · exact fun h => nomatch h
        · rename_i hchecked
          have hpermits : c.Permits r.canonical.uri :=
            ⟨u, hu, by simpa using hhttp, by simpa using hchecked⟩
          split
          · exact fun _ => .inl hpermits
          · refine Conversation.Sends.bind (Conversation.negotiate_sends ?_) fun _ _ _ =>
              .inl hpermits
            intro request hmethod huri sent hsent
            exact ⟨r, hr, hpermits, request, .probe hmethod huri, hsent⟩
      · exact fun h => nomatch h

theorem covers_networkScope {a : Access}
    (ha : a.IsCandidate (fun key => c.Admits key.uri) supplied) (path : String) :
    (c.networkScope supplied).Covers c.settings a path := by
  obtain ⟨r, hr, ha, hpermits | ⟨u, root, hu, hfile, hlocal⟩⟩ := ha
  · obtain ⟨u, hu, hscheme, hchecked⟩ := id hpermits
    have hnofile : u.scheme ≠ "file" := by
      rcases hscheme with h | h <;> simp [h]
    rw [ha, Scope.covers_remote (place_access_canonical hu hnofile)]
    intro request hmethod huri sent hsent
    exact ⟨r, hr, hpermits, request, .file path hmethod huri, hsent⟩
  · rw [ha, Scope.covers_directory (place_access (hlocal r.canonical rfl))]
    trivial

theorem covered_networkScope {a : Access}
    (ha : a.IsCandidate (fun key => c.Admits key.uri) supplied) (ga : GroupArtifact)
    (versionDirectory : Option String) :
    Resolution.Covered (c.networkScope supplied) c.settings ga versionDirectory a := by
  refine ⟨fun _ => covers_networkScope ha _, covers_networkScope ha _, fun _ => ?_⟩
  cases hplace : a.place with
  | directory root => exact (Scope.coversListing_directory hplace).2 trivial
  | remote base => exact (Scope.coversListing_remote hplace).2 (covers_networkScope ha _)

theorem coversOperation_networkScope (c : Configuration) (operation : Operation) :
    (c.networkScope (operation.supplied c)).CoversOperation (fun key => c.Admits key.uri) c
      operation where
  verdict _ hr := coversVerdict_networkScope hr
  builds _ _ _ _ _ ha := covered_networkScope ha _ _
  copies _ _ _ _ _ ha path _ := covers_networkScope ha path
  versions _ _ _ ha := covered_networkScope ha _ _

/-- What a run has sent is permitted, and so are all URIs that were found usable. -/
structure Session.IsSafe (c : Configuration) (events : List Event) (s : Session) : Prop where
  contacts : ∀ contact ∈ s.contacts, ∃ event ∈ events, ∃ sent,
    c.MaySend (event.supplied c) sent ∧ contact.Shows sent
  verdicts : s.Trusts fun key => c.Admits key.uri

/-- One event sends only what is permitted for the repositories that it works with. -/
theorem Event.after_permitted {s : Session} (hs : s.Trusts fun key => c.Admits key.uri)
    (event : Event) :
    (event.after c s).Trusts (fun key => c.Admits key.uri) ∧
      ∃ more, (event.after c s).contacts = s.contacts ++ more ∧
        ∀ contact ∈ more, ∃ sent, c.MaySend (event.supplied c) sent ∧ contact.Shows sent := by
  cases event with
  | ask operation =>
      have hinv := (c.networkScope (operation.supplied c)).admits_within
        (fun key => c.Admits key.uri) s
      obtain ⟨hwithin, htrusts⟩ := Operation.after_keeps hinv
        (coversOperation_networkScope c operation) ⟨.refl _ s, hs⟩
      exact ⟨htrusts, hwithin.contacts⟩
  | change network files environment => exact ⟨hs, [], by simp [after]⟩

theorem Session.IsSafe.after {events : List Event} {s : Session} (h : s.IsSafe c events)
    (event : Event) : (event.after c s).IsSafe c (events ++ [event]) := by
  obtain ⟨htrusts, more, hmore, hall⟩ := event.after_permitted h.verdicts
  refine ⟨fun contact hcontact => ?_, htrusts⟩
  rw [hmore] at hcontact
  rcases List.mem_append.1 hcontact with hold | hnew
  · obtain ⟨event', hmem, hsent⟩ := h.contacts contact hold
    exact ⟨event', List.mem_append_left _ hmem, hsent⟩
  · exact ⟨event, by simp, hall contact hnew⟩

theorem Session.IsSafe.run {past : List Event} {s : Session} (h : s.IsSafe c past)
    (events : List Event) : (s.run c events).IsSafe c (past ++ events) := by
  induction events generalizing s past with
  | nil => simpa using h
  | cons event events ih =>
      rw [run_cons, List.append_cons]
      exact ih (h.after event)

/-- Whatever is asked for in whatever order and world, each request is for a supplied repository
whose URI is permitted, and no verdict says that a repository can be used unless its URI says so. -/
theorem run_isSafe (c : Configuration) (network : Network) (files : Files)
    (environment : List (String × String)) (events : List Event) :
    let s := Session.run c { network, files, environment } events
    (∀ contact ∈ s.contacts, ∃ event ∈ events, ∃ sent,
      c.MaySend (event.supplied c) sent ∧ contact.Shows sent) ∧
    ∀ key, (key, true) ∈ s.normalized → c.Admits key.uri := by
  have hstart : Session.IsSafe c [] { network, files, environment } :=
    ⟨by simp, by simp [Session.Trusts]⟩
  have hrun := hstart.run events
  rw [List.nil_append] at hrun
  exact ⟨hrun.contacts, hrun.verdicts⟩

end Depot
