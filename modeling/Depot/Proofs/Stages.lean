import Depot.Proofs.FirstCopy
import Depot.Proofs.Locations
import Depot.Proofs.SteadyWorld

/-!
What operations do, one stage after the other: repositories are normalized, metadata of those that
can be used is asked for, and then files are read. Only the first two stages use the caches.
-/

namespace Depot

open Http Normalization Repository Run

section Sequences

variable {α β γ : Type} {inv : Session → Prop} {post : β → Prop}

theorem Run.mapM_cons_apply (f : α → Run β) (a : α) (as : List α) (s : Session) :
    (a :: as).mapM f s =
      ((f a s).1 :: (as.mapM f (f a s).2).1, (as.mapM f (f a s).2).2) := by
  rw [List.mapM_cons]
  rfl

theorem Run.Keeps.mapM {f : α → Run β} {as : List α}
    (h : ∀ a ∈ as, Keeps inv (f a) post) : Keeps inv (as.mapM f) fun bs => ∀ b ∈ bs, post b := by
  induction as with
  | nil => exact Keeps.pure (List.forall_mem_nil post)
  | cons a as ih =>
      intro s hs
      obtain ⟨hs', hb⟩ := h a List.mem_cons_self s hs
      obtain ⟨hs'', hbs⟩ := ih (fun a ha => h a (List.mem_cons_of_mem _ ha)) _ hs'
      rw [mapM_cons_apply]
      exact ⟨hs'', List.forall_mem_cons.2 ⟨hb, hbs⟩⟩

/-- What is folded while values are got one by one can as well be folded in the end. -/
theorem Run.foldlM_eq_mapM (f : α → Run β) (g : γ → β → γ) (as : List α) (b : γ) (s : Session) :
    (as.foldlM (fun b a => return g b (← f a)) b : Run γ) s =
      ((as.mapM f s).1.foldl g b, (as.mapM f s).2) := by
  induction as generalizing b s with
  | nil => rfl
  | cons a as ih =>
      rw [List.foldlM_cons, mapM_cons_apply, bind_apply]
      exact ih _ _

end Sequences

/-- What is asked for when metadata is resolved. -/
structure Question where
  repository : Repository
  groupArtifact : GroupArtifact
  versionDirectory : Option String

namespace Question

def key (q : Question) : Metadata.Key :=
  Resolution.key q.repository.access q.groupArtifact q.versionDirectory

def resolve (settings : Settings) (q : Question) : Run (Option Metadata) :=
  Resolution.resolve settings q.repository.access q.groupArtifact q.versionDirectory

def lookUp (settings : Settings) (q : Question) : Run (Option Metadata) :=
  Resolution.lookUp settings q.repository.access q.groupArtifact q.versionDirectory

end Question

/-- Merged metadata is what the questions for all repositories are answered, folded. -/
theorem Resolution.resolveMerged_apply (settings : Settings) (rs : List Repository)
    (ga : GroupArtifact) (versionDirectory : Option String) (s : Session) :
    resolveMerged settings (rs.map access) ga versionDirectory s =
      let answers := (rs.map (Question.mk · ga versionDirectory)).mapM (Question.resolve settings) s
      (answers.1.foldl combine none, answers.2) := by
  refine (foldlM_eq_mapM (resolve settings · ga versionDirectory) combine _ none s).trans ?_
  rw [List.mapM_map, List.mapM_map]
  rfl

namespace Download

variable {c : Configuration} {s : Session}

/-- The repositories that can be used, in canonical form. -/
def usable (c : Configuration) (rs : List Repository) (s : Session) : List Repository :=
  (rs.foldlM (addCandidate c) {} s).1.usable.map Access.repository

theorem addCandidate_session (found : Candidates) (r : Repository) (s : Session) :
    (addCandidate c found r s).2 = (normalize c r s).2 := by
  unfold addCandidate
  rw [bind_apply]
  cases (normalize c r s).1 with
  | none => rfl
  | some r' =>
      dsimp only
      split <;> rfl

theorem candidates_session (rs : List Repository) (found : Candidates) (s : Session) :
    (rs.foldlM (addCandidate c) found s).2 = (rs.mapM (normalize c) s).2 := by
  induction rs generalizing found s with
  | nil => rfl
  | cons r rs ih => rw [List.foldlM_cons, bind_apply, ih, addCandidate_session, mapM_cons_apply]

theorem map_access_usable (c : Configuration) (rs : List Repository) (s : Session) :
    (usable c rs s).map access = (rs.foldlM (addCandidate c) {} s).1.usable := by
  have hkeeps : Keeps (fun _ => True) (rs.foldlM (addCandidate c) {}) fun found =>
      ∀ a ∈ found.usable, a.repository.access = a := by
    refine Keeps.foldlM (fun found r _ hfound => ?_) (List.forall_mem_nil _)
    refine Keeps.bind (Keeps.true _) fun answer _ => ?_
    split
    · exact Keeps.pure hfound
    · split
      · exact Keeps.pure hfound
      · refine Keeps.pure fun a ha => ?_
        rcases List.mem_append.1 ha with ha | ha
        · exact hfound a ha
        · rw [List.mem_singleton.1 ha, repository_access]
  obtain ⟨-, hall⟩ := hkeeps s trivial
  have hid : ∀ a ∈ (rs.foldlM (addCandidate c) {} s).1.usable,
      (access ∘ Access.repository) a = id a := by
    intro a ha
    rw [Function.comp_apply, hall a ha, id_eq]
  rw [usable, List.map_map, List.map_congr_left hid, List.map_id]

/-- What has to be known of the builds of an artifact. -/
def builds (artifact : Artifact) (usable : List Repository) : List Question :=
  match artifact.coordinates.version with
  | .snapshot _ => (usable.filter (·.snapshotsEnabled)).map
      (Question.mk · artifact.coordinates.groupArtifact artifact.coordinates.version.directory)
  | _ => []

theorem fileVersion_session (artifact : Artifact) (rs : List Repository) (s : Session) :
    (fileVersion c artifact (rs.map access) s).2 =
      ((builds artifact rs).mapM (Question.resolve c.settings) s).2 := by
  have hasked : (rs.map access).filter (fun a => a.repository.snapshotsEnabled) =
      (rs.filter (·.snapshotsEnabled)).map access := by
    rw [List.filter_map]
    simp [Function.comp_def]
  unfold fileVersion builds
  dsimp only
  cases artifact.coordinates.version with
  | snapshot base =>
      dsimp only
      rw [bind_apply, hasked, Resolution.resolveMerged_apply]
      rfl
  | release _ => rfl
  | build _ _ _ => rfl

end Download

section Reading

/-- Whatever is asked of servers is read, and all files may be looked at. -/
def Scope.reading : Scope where
  sends sent := sent.method = "GET"
  opens _ := True

variable {inv : Session → Prop} {settings : Settings}

theorem Http.Request.method_of_prepare {request : Request} {sent : Sent}
    (h : request.prepare settings = .ok sent) : sent.method = request.method := by
  unfold prepare at h
  split at h
  · cases h
  · dsimp only at h
    split at h
    · cases h
      rfl
    · cases h

theorem Scope.covers_reading (settings : Settings) (a : Access) (path : String) :
    Scope.reading.Covers settings a path := by
  cases hplace : a.place with
  | directory root => exact (Scope.covers_directory hplace).2 trivial
  | remote base =>
      refine (Scope.covers_remote hplace).2 fun request hmethod _ sent hsent => ?_
      exact (Request.method_of_prepare hsent).trans hmethod

theorem Scope.covered_reading (settings : Settings) (ga : GroupArtifact)
    (versionDirectory : Option String) (a : Access) :
    Resolution.Covered Scope.reading settings ga versionDirectory a := by
  refine ⟨fun _ => covers_reading settings a _, covers_reading settings a _, fun _ => ?_⟩
  cases hplace : a.place with
  | directory root => exact (Scope.coversListing_directory hplace).2 trivial
  | remote base => exact (Scope.coversListing_remote hplace).2 (covers_reading settings a _)

theorem Question.lookUp_keeps (hinv : Scope.reading.SparesReading inv) (q : Question) :
    Keeps inv (q.lookUp settings) Metadata.AllArise :=
  Resolution.lookUp_keeps hinv (Scope.covered_reading settings _ _ _)

theorem Question.resolve_keeps (hinv : Scope.reading.Spares inv) (q : Question) :
    Keeps inv (q.resolve settings) fun _ => True :=
  Resolution.resolve_keeps hinv (Scope.covered_reading settings _ _ _)

end Reading

namespace Download

variable {c : Configuration} {inv : Session → Prop} {preferred : Option Repository}
  {rs : List Repository} {s : Session}

/-- After normalization, and after the questions for builds, a download only reads. -/
theorem downloadArtifact_stages (hinv : Scope.reading.SparesReading inv) {artifact : Artifact}
    (h : inv ((builds artifact (usable c (sources c preferred rs) s)).mapM
      (Question.resolve c.settings) ((sources c preferred rs).mapM (normalize c) s).2).2) :
    inv (downloadArtifact c artifact preferred rs s).2 := by
  rw [downloadArtifact_apply rfl rfl]
  -- Trying the candidates reads files only, so the caches are done with when it begins.
  refine (tryAll_keeps hinv (fun a _ _ path _ => Scope.covers_reading c.settings a path) _ ?_).1
  change inv (fileVersion c artifact
    ((sources c preferred rs).foldlM (addCandidate c) {} s).1.usable
    ((sources c preferred rs).foldlM (addCandidate c) {} s).2).2
  rw [← map_access_usable, fileVersion_session, candidates_session]
  exact h

theorem downloadMetadata_session (ga : GroupArtifact) :
    (downloadMetadata c ga preferred rs s).2 =
      (((usable c (sources c preferred rs) s).map (Question.mk · ga none)).mapM
        (Question.resolve c.settings) ((sources c preferred rs).mapM (normalize c) s).2).2 := by
  rw [downloadMetadata, bind_apply, candidates, ← map_access_usable,
    Resolution.resolveMerged_apply, candidates_session]

end Download

namespace Operation

variable {c : Configuration} {inv : Session → Prop} {s : Session}

/-- The repositories that are normalized. Nothing is done about a path that can not be read. -/
def normalized (c : Configuration) : Operation → List Repository
  | getFile path =>
      match Layout.readPath path with
      | .ok _ => Download.sources c none c.repositories
      | .error _ => []
  | operation => operation.supplied c

/-- The metadata that is asked for. -/
def asked (c : Configuration) (s : Session) (operation : Operation) : List Question :=
  let usable := Download.usable c (operation.normalized c) s
  match operation.artifact?, operation.groupArtifact? with
  | some artifact, _ => Download.builds artifact usable
  | none, some ga => usable.map (Question.mk · ga none)
  | none, none => []

/-- Repositories are normalized one after the other. -/
def isSequential : Operation → Bool
  | normalizeAll _ => false
  | _ => true

/-- The session when the caches are not used any more. -/
def cached (c : Configuration) (s : Session) (operation : Operation) : Session :=
  ((operation.asked c s).mapM (Question.resolve c.settings)
    ((operation.normalized c).mapM (Normalization.normalize c) s).2).2

theorem after_stages (hinv : Scope.reading.SparesReading inv) {operation : Operation}
    (hsequential : operation.isSequential) (h : inv (operation.cached c s)) :
    inv (operation.after c s) := by
  cases operation with
  | normalize r => exact h
  | normalizeAll rs => cases hsequential
  | download coordinates relocation preferred rs => exact Download.downloadArtifact_stages hinv h
  | downloadArtifact artifact preferred rs => exact Download.downloadArtifact_stages hinv h
  | downloadMetadata ga preferred rs =>
      rw [after, Download.downloadMetadata_session]
      exact h
  | getFile path =>
      rw [after, Service.getFile]
      cases hread : Layout.readPath path with
      | error e =>
          simp only [cached, asked, normalized, artifact?, groupArtifact?, hread, Except.toOption,
            List.mapM_nil] at h
          dsimp only
          exact h
      | ok artifact =>
          simp only [cached, asked, normalized, artifact?, groupArtifact?, hread,
            Except.toOption] at h
          have hafter := Download.downloadArtifact_stages hinv h
          dsimp only
          rw [bind_apply]
          cases (Download.downloadArtifact c artifact none c.repositories s).1 <;> exact hafter
  | getMetadata ga =>
      rw [after, Service.getMetadata, bind_apply, Download.downloadMetadata_session]
      cases (Download.downloadMetadata c ga none c.repositories s).1 <;> exact h

/-- After its normalizations an operation reads, and keeps metadata. -/
theorem after_of_normalized (hinv : Scope.reading.Spares inv) {operation : Operation}
    (hsequential : operation.isSequential)
    (h : inv ((operation.normalized c).mapM (Normalization.normalize c) s).2) :
    inv (operation.after c s) :=
  after_stages hinv.toSparesReading hsequential
    (Keeps.mapM (fun q _ => Question.resolve_keeps hinv q) _ h).1

end Operation

end Depot
