import Depot.Proofs.FirstCopy
import Depot.Proofs.Locations
import Depot.Proofs.ReadingAlike
import Depot.Proofs.TablesAlike

/-!
Downloads side by side. The descriptions of repositories that two runs work with may differ in their
passwords. If the same is read from both of them, the same becomes of it.
-/

namespace Depot

open Http Normalization Repository Run

variable {R : Session → Session → Prop} {V : Repository → Repository → Prop}

namespace Repository

/-- The description with an empty password, if it has one at all. -/
def withoutPassword (r : Repository) : Repository :=
  { r with password := r.password.map fun _ => "" }

/-- Descriptions of which `V` holds can be told apart by their passwords at most, and `V` holds of
their canonical forms as well. -/
structure IsTwinning (V : Repository → Repository → Prop) : Prop where
  withoutPassword : ∀ {r r'}, V r r' → r.withoutPassword = r'.withoutPassword
  canonical : ∀ {r r'}, V r r' → V r.canonical r'.canonical

theorem isTwinning_eq : IsTwinning Eq where
  withoutPassword h := h ▸ rfl
  canonical h := h ▸ rfl

namespace IsTwinning

variable {r r' : Repository}

/-- Whatever does not depend on the password is the same. -/
theorem congr {β : Type} (hV : IsTwinning V) (h : V r r') (f : Repository → β)
    (hf : ∀ r, f r.withoutPassword = f r) : f r = f r' :=
  congr_of_mask (hV.withoutPassword h) f hf

theorem uri (hV : IsTwinning V) (h : V r r') : r.uri = r'.uri :=
  hV.congr h Repository.uri fun _ => rfl

theorem isLocal (hV : IsTwinning V) (h : V r r') : r.isLocal = r'.isLocal :=
  hV.congr h Repository.isLocal fun _ => rfl

theorem key (hV : IsTwinning V) (h : V r r') : Normalization.key r = Normalization.key r' := by
  refine hV.congr h Normalization.key fun r => ?_
  obtain ⟨id, uri, username, password⟩ := r
  cases username <;> cases password <;> rfl

end IsTwinning

/-- Two ways to the same place. -/
structure Access.Twins (V : Repository → Repository → Prop) (a a' : Access) : Prop where
  repository : V a.repository a'.repository
  place : a.place = a'.place

theorem Access.Twins.eq {a a' : Access} (h : a.Twins Eq a') : a = a' := by
  obtain ⟨repository, place⟩ := a
  obtain ⟨rfl, rfl⟩ := h
  rfl

theorem twins_access (hV : IsTwinning V) {r r' : Repository} (h : V r r') :
    r.access.Twins V r'.access := by
  refine ⟨?_, place_access_congr (hV.uri h)⟩
  rw [repository_access, repository_access]
  exact h

end Repository

variable {settings : Settings} {a a' : Access}

/-- Related sessions have the same caches, and stay related while the same is kept in both. -/
structure Session.SharesCaches (R : Session → Session → Prop) : Prop where
  normalized : ∀ {s s'}, R s s' → s.normalized = s'.normalized
  metadata : ∀ {s s'}, R s s' → s.metadata = s'.metadata
  setNormalized : ∀ {s s'} cache, R s s' →
    R { s with normalized := cache } { s' with normalized := cache }
  setMetadata : ∀ {s s'} cache, R s s' →
    R { s with metadata := cache } { s' with metadata := cache }

namespace Resolution

variable {ga : GroupArtifact} {versionDirectory : Option String}

theorem resolve_matches (hR : Session.SharesCaches R) (hV : IsTwinning V) (h : a.Twins V a')
    (hfetch : a.FetchAlike R settings a')
    (hlist : versionDirectory = none → a.ListAlike R settings a') :
    Matches R (resolve settings a ga versionDirectory) (resolve settings a' ga versionDirectory)
      Eq := by
  have hkey : key a' ga versionDirectory = key a ga versionDirectory := by
    rw [key, key, Access.uri, Access.uri, hV.uri h.repository]
  have hderive : a.repository.deriveMetadata = a'.repository.deriveMetadata :=
    hV.congr h.repository Repository.deriveMetadata fun _ => rfl
  unfold resolve
  rw [hkey]
  refine Matches.get.bind fun s s' hs => ?_
  rw [hR.metadata hs]
  split
  · exact Matches.pure rfl
  · have hlooked : Matches R (lookUp settings a ga versionDirectory)
        (lookUp settings a' ga versionDirectory) Eq :=
      lookUp_matches (hV.isLocal h.repository) (fun _ => hderive) hfetch hlist
    refine hlooked.bind_eq fun m => ?_
    refine (Matches.modify fun s s' hs => ?_).bind fun _ _ _ => Matches.pure rfl
    rw [hR.metadata hs]
    exact hR.setMetadata _ hs

theorem resolveMerged_matches (hR : Session.SharesCaches R) (hV : IsTwinning V)
    {as as' : List Access} (h : List.Forall₂ (fun a a' => a.Twins V a' ∧
      a.FetchAlike R settings a' ∧ (versionDirectory = none → a.ListAlike R settings a')) as as') :
    Matches R (resolveMerged settings as ga versionDirectory)
      (resolveMerged settings as' ga versionDirectory) Eq := by
  refine Matches.foldlM h (fun merged _ a a' ⟨htwins, hfetch, hlist⟩ hmerged => ?_) rfl
  subst hmerged
  exact (resolve_matches hR hV htwins hfetch hlist).bind_eq fun _ => Matches.pure rfl

end Resolution

/-- The same error on both sides, or values of which `Q` holds. -/
inductive ErrorOr {ε α α' : Type} (Q : α → α' → Prop) : Except ε α → Except ε α' → Prop
  | error (e : ε) : ErrorOr Q (.error e) (.error e)
  | ok {a : α} {a' : α'} : Q a a' → ErrorOr Q (.ok a) (.ok a')

theorem Validation.validate_matches (hV : IsTwinning V) (h : a.Twins V a')
    (hfetch : a.FetchAlike R settings a') (artifact : Artifact) (fileVersion : String)
    (blob : Digest.Blob) :
    Matches R (validate settings a artifact fileVersion blob)
      (validate settings a' artifact fileVersion blob) Eq := by
  unfold validate
  rw [← hV.isLocal h.repository]
  split
  · exact Matches.pure rfl
  · exact Matches.pure rfl
  · split
    · refine (hfetch _).bind_eq fun outcome => ?_
      split <;> exact Matches.pure rfl
    · exact Matches.pure rfl

namespace Download

variable {c c' : Configuration} {artifact : Artifact} {text : String}

/-- The same file, resolved from descriptions of which `V` holds. -/
structure Resolved.Twins (V : Repository → Repository → Prop) (x x' : Resolved) : Prop where
  coordinates : x.coordinates = x'.coordinates
  repository : V x.repository x'.repository
  content : x.content = x'.content
  fileName : x.fileName = x'.fileName

theorem eq_of_errorOr_twins {ε : Type} {x x' : Except ε Resolved}
    (h : ErrorOr (Resolved.Twins Eq) x x') : x = x' := by
  cases h with
  | error e => rfl
  | @ok resolved resolved' h =>
      obtain ⟨coordinates, repository, content, fileName⟩ := resolved
      obtain ⟨rfl, rfl, rfl, rfl⟩ := h
      rfl

theorem fetchVersion_matches (hsettings : c.settings = c'.settings) (hV : IsTwinning V)
    (h : a.Twins V a') (hfetch : a.FetchAlike R c.settings a') :
    Matches R (fetchVersion c a artifact text) (fetchVersion c' a' artifact text) Eq := by
  unfold fetchVersion
  rw [← hsettings, ← hV.isLocal h.repository]
  refine (hfetch _).bind_eq fun outcome => ?_
  split
  · exact Matches.pure rfl
  · exact Matches.pure rfl
  · split
    · refine (hfetch _).bind_eq fun outcome => ?_
      split <;> exact Matches.pure rfl
    · exact Matches.pure rfl

theorem tryRepository_matches (hsettings : c.settings = c'.settings) (hV : IsTwinning V)
    (h : a.Twins V a') (hfetch : a.FetchAlike R c.settings a') :
    Matches R (tryRepository c a artifact text) (tryRepository c' a' artifact text)
      (ErrorOr (Resolved.Twins V)) := by
  refine (fetchVersion_matches hsettings hV h hfetch).bind_eq fun outcome => ?_
  split
  · exact Matches.pure (.error _)
  · exact Matches.pure (.error _)
  · rw [← hsettings]
    refine (Validation.validate_matches hV h hfetch _ _ _).bind_eq fun valid => ?_
    split
    · exact Matches.pure (.error _)
    · exact Matches.pure (.ok ⟨rfl, h.repository, rfl, rfl⟩)

/-- Only what accepts the version needs to read alike. -/
theorem tryAll_matches (text : String) (hsettings : c.settings = c'.settings)
    (hV : IsTwinning V) {as as' : List Access} (h : List.Forall₂ (fun a a' => a.Twins V a' ∧
      (a.repository.accepts artifact.coordinates.version → a.FetchAlike R c.settings a')) as as') :
    Matches R (tryAll c artifact text as) (tryAll c' artifact text as')
      (ErrorOr (Resolved.Twins V)) := by
  induction h with
  | nil => exact Matches.pure (.error [])
  | @cons a a' as as' h _ ih =>
      obtain ⟨htwins, hfetch⟩ := h
      unfold tryAll
      extract_lets version rest rest'
      have huri : a.uri = a'.uri := hV.uri htwins.repository
      have hrest (x x' : Except String Resolved) (hx : ErrorOr (Resolved.Twins V) x x') :
          Matches R (rest x) (rest' x') (ErrorOr (Resolved.Twins V)) := by
        cases hx with
        | ok hx => exact Matches.pure (.ok hx)
        | error reason =>
            refine ih.bind fun y y' hy => ?_
            cases hy with
            | ok hy => exact Matches.pure (.ok hy)
            | error attempts =>
                dsimp only
                rw [huri]
                exact Matches.pure (.error _)
      rw [← hV.congr htwins.repository (Repository.accepts · version) fun _ => rfl]
      split
      · rename_i haccepts
        exact (tryRepository_matches hsettings hV htwins (hfetch haccepts)).bind hrest
      · exact hrest _ _ (.error _)

theorem fileVersion_matches (hR : Session.SharesCaches R) (hsettings : c.settings = c'.settings)
    (hV : IsTwinning V) {as as' : List Access} (h : List.Forall₂ (fun a a' => a.Twins V a' ∧
      (a.repository.accepts artifact.coordinates.version → a.FetchAlike R c.settings a')) as as') :
    Matches R (fileVersion c artifact as) (fileVersion c' artifact as') Eq := by
  unfold fileVersion
  dsimp only
  split
  · rename_i base hbase
    rw [← hsettings]
    refine (Resolution.resolveMerged_matches hR hV ?_).bind_eq fun _ => Matches.pure rfl
    induction h with
    | nil => exact .nil
    | @cons a a' as as' h _ ih =>
        obtain ⟨htwins, hfetch⟩ := h
        rw [List.filter_cons, List.filter_cons,
          ← hV.congr htwins.repository Repository.snapshotsEnabled fun _ => rfl]
        split
        · rename_i henabled
          refine .cons ⟨htwins, hfetch ?_, nofun⟩ ih
          rw [accepts, hbase]
          exact henabled
        · exact ih
  · exact Matches.pure rfl

end Download

namespace Normalization

variable {S : Sent → Sent → Prop} {c c' : Configuration} {r r' : Repository}

theorem verdict_matches (hsettings : c.settings = c'.settings)
    (hpolicy : c.hostPolicy = c'.hostPolicy) (hV : IsTwinning V) (h : V r r')
    {lookup lookup' : String → Option String}
    (hnegotiate : (Conversation.negotiate c.settings lookup (.head r.uri) r.credentials).Matches
      S Eq (Conversation.negotiate c.settings lookup' (.head r.uri) r'.credentials)) :
    (verdict c lookup r).Matches S Eq (verdict c' lookup' r') := by
  have huri := hV.uri h
  unfold verdict
  rw [← huri, ← hsettings, ← hpolicy, localPath?_congr huri,
    hV.congr h Repository.knownToExist fun _ => rfl]
  split
  · exact .done rfl
  · split
    · exact .done rfl
    · split
      · split
        · exact .done rfl
        · split
          · exact .done rfl
          · exact hnegotiate.map _
      · exact .done rfl

-- What a verdict says is of no interest from here on.
attribute [local irreducible] verdict

/-- Verdicts on both descriptions are reached by asking the same. -/
def VerdictAlike (R : Session → Session → Prop) (S : Sent → Sent → Prop) (c c' : Configuration)
    (r r' : Repository) : Prop :=
  ∀ s s', R s s' →
    (verdict c s.lookup r.canonical).Matches S Eq (verdict c' s'.lookup r'.canonical)

theorem rel_answer (h : V r r') (usable : Bool) :
    Option.Rel V (answer r usable) (answer r' usable) := by
  cases usable with
  | false => exact .none
  | true => exact .some h

theorem normalize_matches (hR : Session.Pairs R S) (hcaches : Session.SharesCaches R)
    (hV : IsTwinning V) (h : V r r') (hverdict : VerdictAlike R S c c' r r') :
    Matches R (normalize c r) (normalize c' r') (Option.Rel V) := by
  have hanswer := rel_answer (hV.canonical h)
  unfold normalize
  dsimp only
  rw [← hV.key (hV.canonical h)]
  refine Matches.get.bind fun s s' hs => ?_
  rw [hcaches.normalized hs]
  split
  · exact Matches.pure (hanswer _)
  · refine Matches.get.bind fun s s' hs => ?_
    refine (Session.hold_matches hR (hverdict s s' hs)).bind_eq fun usable => ?_
    refine (Matches.modify fun s s' hs => ?_).bind fun _ _ _ => Matches.pure (hanswer usable)
    rw [hcaches.normalized hs]
    exact hcaches.setNormalized _ hs

theorem normalizeAll_matches (hR : Session.Pairs R S) (hcaches : Session.SharesCaches R)
    (hV : IsTwinning V) (hsettings : c.settings = c'.settings) {rs rs' : List Repository}
    (h : List.Forall₂ (fun r r' => V r r' ∧ VerdictAlike R S c c' r r') rs rs') :
    Matches R (normalizeAll c rs) (normalizeAll c' rs') (List.Forall₂ (Option.Rel V)) := by
  have hcanonical : List.Forall₂ V (rs.map canonical) (rs'.map canonical) :=
    List.rel_map (fun _ _ hr => hV.canonical hr.1) h
  have hwaits : waits c = waits c' := by rw [waits, waits, hsettings]
  unfold normalizeAll
  refine Matches.get.bind fun s s' hs => Matches.get.bind fun s₁ s₁' hs₁ => ?_
  have hcalls : List.Forall₂ (Cache.Call.Twins S)
      ((rs.map canonical).map fun r => ⟨key r, verdict c s.lookup r, none⟩)
      ((rs'.map canonical).map fun r => ⟨key r, verdict c' s'.lookup r, none⟩) := by
    rw [List.map_map, List.map_map]
    exact List.rel_map (fun r r' hr => ⟨hV.key (hV.canonical hr.1), rfl, hr.2 s s' hs⟩) h
  rw [← hwaits, ← hcaches.normalized hs₁]
  refine (Cache.Cells.compute_matches hR rfl hcalls (waits c)).bind fun t t' ht => ?_
  refine (Matches.modify fun s s' hs => ?_).bind fun _ _ _ => Matches.pure ?_
  · rw [ht.cache]
    exact hcaches.setNormalized _ hs
  · refine List.rel_map ?_ (Cache.forall₂_zip hcanonical ht.callers)
    rintro ⟨r, caller⟩ ⟨r', caller'⟩ ⟨hr, hcaller⟩
    dsimp only at hr hcaller ⊢
    rw [← hcaller.value?]
    cases caller.value? with
    | none => exact .none
    | some usable => exact rel_answer hr usable

end Normalization

namespace Download

variable {S : Sent → Sent → Prop} {c c' : Configuration} {rs rs' : List Repository}
  {preferred preferred' : Option Repository} {artifact : Artifact}

structure Candidates.Twins (V : Repository → Repository → Prop) (found found' : Candidates) :
    Prop where
  usable : List.Forall₂ (Access.Twins V) found.usable found'.usable
  dropped : found.dropped = found'.dropped

theorem addCandidate_matches (hR : Session.Pairs R S) (hcaches : Session.SharesCaches R)
    (hV : IsTwinning V) {found found' : Candidates} (hfound : found.Twins V found')
    {r r' : Repository} (h : V r r') (hverdict : VerdictAlike R S c c' r r') :
    Matches R (addCandidate c found r) (addCandidate c' found' r') (Candidates.Twins V) := by
  refine (normalize_matches hR hcaches hV h hverdict).bind fun x x' hx => ?_
  cases hx with
  | none =>
      dsimp only
      rw [hfound.dropped, hV.uri h]
      exact Matches.pure ⟨hfound.usable, rfl⟩
  | @some r r' h =>
      have hany : found.usable.any (fun a => a.uri == r.uri) =
          found'.usable.any fun a => a.uri == r'.uri := by
        refine any_eq_of_forall₂ hfound.usable fun a a' ha => ?_
        rw [Access.uri, Access.uri, hV.uri ha.repository, hV.uri h]
      dsimp only
      rw [← hany]
      split
      · exact Matches.pure hfound
      · exact Matches.pure ⟨List.rel_append hfound.usable (.cons (twins_access hV h) .nil),
          hfound.dropped⟩

theorem candidates_matches (hR : Session.Pairs R S) (hcaches : Session.SharesCaches R)
    (hV : IsTwinning V) (h : List.Forall₂ (fun r r' => V r r' ∧ VerdictAlike R S c c' r r')
      (sources c preferred rs) (sources c' preferred' rs')) :
    Matches R (candidates c preferred rs) (candidates c' preferred' rs')
      (Candidates.Twins V) :=
  Matches.foldlM h (fun _ _ _ _ hr hfound =>
    addCandidate_matches hR hcaches hV hfound hr.1 hr.2) ⟨.nil, rfl⟩

theorem conclude_twins {found found' : Candidates} (hfound : found.Twins V found') {text : String}
    {x x' : Except (List Attempt) Resolved} (hx : ErrorOr (Resolved.Twins V) x x') :
    ErrorOr (Resolved.Twins V) (conclude artifact text found x)
      (conclude artifact text found' x') := by
  have hempty : found.usable.isEmpty = found'.usable.isEmpty := by
    rw [Bool.eq_iff_iff, List.isEmpty_iff_length_eq_zero, List.isEmpty_iff_length_eq_zero,
      hfound.usable.length_eq]
  cases hx with
  | ok hresolved => exact .ok hresolved
  | error attempts =>
      unfold conclude
      rw [hempty, hfound.dropped]
      exact .error _

/-- Only candidates that accept the version need to be read alike. -/
theorem downloadArtifact_match (hR : Session.Pairs R S) (hcaches : Session.SharesCaches R)
    (hsettings : c.settings = c'.settings) (hV : IsTwinning V)
    (h : List.Forall₂ (fun r r' => V r r' ∧ VerdictAlike R S c c' r r')
      (sources c preferred rs) (sources c' preferred' rs')) {s s' : Session} (hs : R s s')
    (hfetch : ∀ a ∈ (candidates c preferred rs s).1.usable, ∀ a', a.Twins V a' →
      a.repository.accepts artifact.coordinates.version → a.FetchAlike R c.settings a') :
    R (downloadArtifact c artifact preferred rs s).2
        (downloadArtifact c' artifact preferred' rs' s').2 ∧
      ErrorOr (Resolved.Twins V) (downloadArtifact c artifact preferred rs s).1
        (downloadArtifact c' artifact preferred' rs' s').1 := by
  -- `hfetch` is about the candidates of this session alone, so the stages are run one by one.
  obtain ⟨hs₁, hcandidates⟩ := candidates_matches hR hcaches hV h s s' hs
  rcases hfound : candidates c preferred rs s with ⟨found, s₁⟩
  rcases hfound' : candidates c' preferred' rs' s' with ⟨found', s₁'⟩
  rw [hfound] at hs₁ hcandidates hfetch
  rw [hfound'] at hs₁ hcandidates
  have husable : List.Forall₂ (fun a a' => a.Twins V a' ∧
      (a.repository.accepts artifact.coordinates.version → a.FetchAlike R c.settings a'))
      found.usable found'.usable := by
    refine ((List.forall₂_and_left _ _).2 ⟨hfetch, hcandidates.usable⟩).imp fun a a' ha => ?_
    exact ⟨ha.2, ha.1 a' ha.2⟩
  obtain ⟨hs₂, hnamed⟩ := fileVersion_matches hcaches hsettings hV husable s₁ s₁' hs₁
  rcases htext : fileVersion c artifact found.usable s₁ with ⟨text, s₂⟩
  rcases htext' : fileVersion c' artifact found'.usable s₁' with ⟨text', s₂'⟩
  rw [htext, htext'] at hs₂ hnamed
  cases hnamed
  obtain ⟨hs₃, houtcome⟩ := tryAll_matches text hsettings hV husable s₂ s₂' hs₂
  rw [downloadArtifact_apply hfound htext, downloadArtifact_apply hfound' htext']
  exact ⟨hs₃, conclude_twins hcandidates houtcome⟩

end Download

end Depot
