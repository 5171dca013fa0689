import Depot.Download
import Depot.Proofs.Documents
import Depot.Proofs.Scope

/-!
What is read from repositories: every request is for a file below the repository's URI, every file
below its directory, and both are among the paths that the operation has to look at.
-/

namespace Depot

open Http Repository Run

variable {scope : Scope} {inv : Session → Prop} {settings : Settings} {a : Access}

/-- Reading this path of the repository stays within the scope. -/
def Scope.Covers (scope : Scope) (settings : Settings) (a : Access) (path : String) : Prop :=
  match a.place with
  | .directory root => scope.opens (Files.join root (Text.Utf8.encode path))
  | .remote base => ∀ request : Request, request.method = "GET" → request.uri = base ++ path →
      ∀ sent, request.prepare settings = .ok sent → scope.sends sent

theorem Scope.covers_directory {root : Files.Path} (hplace : a.place = .directory root)
    {path : String} : scope.Covers settings a path ↔
      scope.opens (Files.join root (Text.Utf8.encode path)) := by
  unfold Scope.Covers
  rw [hplace]

theorem Scope.covers_remote {base : String} (hplace : a.place = .remote base) {path : String} :
    scope.Covers settings a path ↔
      ∀ request : Request, request.method = "GET" → request.uri = base ++ path →
        ∀ sent, request.prepare settings = .ok sent → scope.sends sent := by
  unfold Scope.Covers
  rw [hplace]

/-- The page that a remote repository shows for a directory. -/
def Repository.Access.indexPath (path : String) : String :=
  String.ofList (Text.dropEndWhile (· == '/') path.toList) ++ "/"

/-- Listing this directory of the repository stays within the scope. -/
def Scope.CoversListing (scope : Scope) (settings : Settings) (a : Access) (path : String) : Prop :=
  match a.place with
  | .directory root => scope.opens (Files.join root (Text.Utf8.encode path))
  | .remote _ => scope.Covers settings a (Access.indexPath path)

theorem Scope.coversListing_directory {root : Files.Path} (hplace : a.place = .directory root)
    {path : String} : scope.CoversListing settings a path ↔
      scope.opens (Files.join root (Text.Utf8.encode path)) := by
  unfold Scope.CoversListing
  rw [hplace]

theorem Scope.coversListing_remote {base : String} (hplace : a.place = .remote base)
    {path : String} : scope.CoversListing settings a path ↔
      scope.Covers settings a (Access.indexPath path) := by
  unfold Scope.CoversListing
  rw [hplace]

namespace Repository.Access

theorem fetch_keeps (hinv : scope.SparesReading inv) {path : String}
    (h : scope.Covers settings a path) :
    Keeps inv (a.fetch settings path) fun _ => True := by
  unfold fetch
  cases hplace : a.place with
  | directory root =>
      rw [Scope.covers_directory hplace] at h
      refine Keeps.bind (Session.readFile_keeps hinv h) fun outcome _ => ?_
      split <;> exact Keeps.pure trivial
  | remote base =>
      rw [Scope.covers_remote hplace] at h
      refine Keeps.bind Keeps.get fun s _ => ?_
      refine Keeps.bind (Session.hold_keeps hinv (Conversation.negotiate_sends ?_)) fun _ _ =>
        Keeps.pure trivial
      exact fun r hmethod huri => h r hmethod huri

theorem list_keeps (hinv : scope.SparesReading inv) {path : String}
    (h : scope.CoversListing settings a path) :
    Keeps inv (a.list settings path) fun _ => True := by
  unfold list
  cases hplace : a.place with
  | directory root =>
      rw [Scope.coversListing_directory hplace] at h
      refine Keeps.bind (Session.listDirectories_keeps hinv h) fun outcome _ => ?_
      split <;> exact Keeps.pure trivial
  | remote base =>
      rw [Scope.coversListing_remote hplace] at h
      refine Keeps.bind (fetch_keeps hinv h) fun outcome _ => ?_
      split <;> exact Keeps.pure trivial

end Repository.Access

namespace Resolution

theorem fetchDocument_keeps (hinv : scope.SparesReading inv) {path : String}
    (h : scope.Covers settings a path) :
    Keeps inv (fetchDocument settings a path) Metadata.AllArise := by
  refine Keeps.bind (Access.fetch_keeps hinv h) fun outcome _ => ?_
  split
  · rename_i blob
    split
    · exact Keeps.pure Metadata.allArise_none
    · cases hread : Metadata.ofBytes blob.data with
      | error fault => exact Keeps.pure Metadata.allArise_none
      | ok m => exact Keeps.pure (Metadata.allArise_some (.read hread))
  · exact Keeps.pure Metadata.allArise_none

/-- The paths that metadata is read from, and the directory that is listed in its place. -/
structure Covered (scope : Scope) (settings : Settings) (ga : GroupArtifact)
    (versionDirectory : Option String) (a : Access) : Prop where
  installed : a.repository.isLocal →
    scope.Covers settings a (Layout.metadataPath ga versionDirectory Layout.localMetadataName)
  published : scope.Covers settings a (Layout.metadataPath ga versionDirectory Layout.metadataName)
  listing : versionDirectory = none → scope.CoversListing settings a (Layout.directory ga)

variable {ga : GroupArtifact} {versionDirectory : Option String}

theorem derive_keeps (hinv : scope.SparesReading inv)
    (h : scope.CoversListing settings a (Layout.directory ga)) :
    Keeps inv (derive settings a ga) fun outcome => Metadata.AllArise outcome.toOption := by
  refine Keeps.bind (Access.list_keeps hinv h) fun outcome _ => Keeps.pure ?_
  cases outcome with
  | error e => exact Metadata.allArise_none
  | ok versions => exact Metadata.allArise_some (.listed ga versions)

theorem lookUp_keeps (hinv : scope.SparesReading inv)
    (h : Covered scope settings ga versionDirectory a) :
    Keeps inv (lookUp settings a ga versionDirectory) Metadata.AllArise := by
  unfold lookUp
  extract_lets rest publish
  have hrest (found : Option Metadata) (hfound : Metadata.AllArise found) :
      Keeps inv (rest found) Metadata.AllArise := by
    dsimp only [rest]
    split
    · exact Keeps.pure hfound
    · rename_i hnone
      have hversion : versionDirectory = none := by
        simp only [Bool.or_eq_true, not_or, Option.not_isSome_iff_eq_none] at hnone
        exact hnone.2
      refine Keeps.bind (derive_keeps hinv (h.listing hversion)) fun outcome houtcome => ?_
      split
      · split
        · exact Keeps.pure Metadata.allArise_none
        · exact Keeps.pure houtcome
      · exact Keeps.pure Metadata.allArise_none
  have hpublish (installed : Option Metadata) (hinstalled : Metadata.AllArise installed) :
      Keeps inv (publish installed) Metadata.AllArise := by
    cases installed with
    | some m => exact hrest (some m) hinstalled
    | none => exact Keeps.bind (fetchDocument_keeps hinv h.published) hrest
  split
  · rename_i hlocal
    exact Keeps.bind (fetchDocument_keeps hinv (h.installed hlocal)) hpublish
  · exact hpublish none Metadata.allArise_none

theorem resolve_keeps (hinv : scope.Spares inv) (h : Covered scope settings ga versionDirectory a) :
    Keeps inv (resolve settings a ga versionDirectory) fun _ => True := by
  refine Keeps.bind Keeps.get fun s _ => ?_
  split
  · exact Keeps.pure trivial
  · refine Keeps.bind (lookUp_keeps hinv.toSparesReading h) fun m _ => ?_
    exact Keeps.bind (Keeps.modify fun s hs => hinv.metadata s _ m hs) fun _ _ => Keeps.pure trivial

theorem resolveMerged_keeps (hinv : scope.Spares inv) {as : List Access}
    (h : ∀ a ∈ as, Covered scope settings ga versionDirectory a) :
    Keeps inv (resolveMerged settings as ga versionDirectory) fun _ => True :=
  Keeps.foldlM (fun _ a ha _ => Keeps.bind (resolve_keeps hinv (h a ha)) fun _ _ =>
    Keeps.pure trivial) trivial

end Resolution

/-- The text may stand for the version in the name of a file. Only floating snapshots have another
one than their own. -/
def Version.Names (version : Version) (text : String) : Prop :=
  match version with
  | .snapshot _ => True
  | _ => text = version.text

namespace Download

/-- The versions that stand in the names under which an artifact's file is looked for. -/
def fileVersions (artifact : Artifact) (fileVersion : String) : List String :=
  if artifact.coordinates.version.isSnapshot then
    [fileVersion, artifact.coordinates.version.directory]
  else [fileVersion]

theorem self_mem_fileVersions (artifact : Artifact) (fileVersion : String) :
    fileVersion ∈ fileVersions artifact fileVersion := by
  unfold fileVersions
  split <;> simp

/-- The paths that a copy of an artifact is read from: its own, and that of the binary that a
description may need beside it. -/
inductive Reads (artifact : Artifact) (fileVersion : String) : String → Prop
  | copy {version : String} : version ∈ fileVersions artifact fileVersion →
      Reads artifact fileVersion (Layout.path artifact version)
  | companion {version extension : String} {packaging : Option String} :
      version ∈ fileVersions artifact fileVersion → artifact.isPom →
      Project.companion? packaging = some extension →
      Reads artifact fileVersion (Layout.path ⟨artifact.coordinates, none, extension⟩ version)

variable {c : Configuration} {artifact : Artifact} {fileVersion : String}

theorem fetchVersion_keeps (hinv : scope.SparesReading inv)
    (h : ∀ path, Reads artifact fileVersion path → scope.Covers c.settings a path) :
    Keeps inv (fetchVersion c a artifact fileVersion) fun outcome =>
      ∀ blob version, outcome = .ok (some (blob, version)) →
        version ∈ fileVersions artifact fileVersion := by
  have hself := self_mem_fileVersions artifact fileVersion
  refine Keeps.bind (Access.fetch_keeps hinv (h _ (.copy hself))) fun outcome _ => ?_
  split
  · exact Keeps.pure (by simp)
  · refine Keeps.pure fun blob version heq => ?_
    simp only [Except.ok.injEq, Option.some.injEq, Prod.mk.injEq] at heq
    exact heq.2 ▸ hself
  · split
    · rename_i hliteral
      have hdir : artifact.coordinates.version.directory ∈ fileVersions artifact fileVersion := by
        simp only [Bool.and_eq_true] at hliteral
        simp [fileVersions, hliteral.1.2]
      refine Keeps.bind (Access.fetch_keeps hinv (h _ (.copy hdir))) fun outcome _ => ?_
      split
      · exact Keeps.pure (by simp)
      · refine Keeps.pure fun blob version heq => ?_
        simp only [Except.ok.injEq, Option.map_eq_some_iff, Prod.mk.injEq] at heq
        obtain ⟨_, _, _, rfl⟩ := heq
        exact hdir
    · exact Keeps.pure (by simp)

end Download

namespace Validation

theorem checkCompanion_keeps (hinv : scope.SparesReading inv) {path : String}
    (h : scope.Covers settings a path) :
    Keeps inv (checkCompanion settings a path) fun _ => True := by
  refine Keeps.bind (Access.fetch_keeps hinv h) fun outcome _ => ?_
  split
  · exact Keeps.pure trivial
  · exact Keeps.pure trivial
  · exact Keeps.pure trivial

/-- Only descriptions of projects are looked into. -/
theorem isPom_of_inspect {artifact : Artifact} {path : String} {blob : Digest.Blob} {p : Project}
    (h : inspect artifact path blob = .ok (some p)) : artifact.isPom := by
  unfold inspect at h
  split at h
  · simp at h
  · split at h
    · simp at h
    · split at h
      · simp at h
      · rename_i hpom
        simpa using hpom

theorem validate_keeps (hinv : scope.SparesReading inv) {artifact : Artifact}
    {fileVersion version : String} {blob : Digest.Blob}
    (hversion : version ∈ Download.fileVersions artifact fileVersion)
    (h : ∀ path, Download.Reads artifact fileVersion path → scope.Covers settings a path) :
    Keeps inv (validate settings a artifact version blob) fun _ => True := by
  unfold validate
  split
  · exact Keeps.pure trivial
  · exact Keeps.pure trivial
  · rename_i p hp
    split
    · rename_i extension _ hextension
      exact checkCompanion_keeps hinv (h _ (.companion hversion (isPom_of_inspect hp) hextension))
    · exact Keeps.pure trivial

end Validation

namespace Download

variable {c : Configuration} {artifact : Artifact} {fileVersion : String}

theorem tryRepository_keeps (hinv : scope.SparesReading inv)
    (h : ∀ path, Reads artifact fileVersion path → scope.Covers c.settings a path) :
    Keeps inv (tryRepository c a artifact fileVersion) fun _ => True := by
  refine Keeps.bind (fetchVersion_keeps hinv h) fun outcome houtcome => ?_
  split
  · exact Keeps.pure trivial
  · exact Keeps.pure trivial
  · refine Keeps.bind (Validation.validate_keeps hinv (houtcome _ _ rfl) h) fun valid _ => ?_
    split <;> exact Keeps.pure trivial

theorem tryAll_keeps_of {as : List Access}
    (h : ∀ a ∈ as, a.repository.accepts artifact.coordinates.version →
      Keeps inv (tryRepository c a artifact fileVersion) fun _ => True) :
    Keeps inv (tryAll c artifact fileVersion as) fun _ => True := by
  induction as with
  | nil => exact Keeps.pure trivial
  | cons a as ih =>
      unfold tryAll
      extract_lets version rest
      have hrest (outcome : Except String Resolved) : Keeps inv (rest outcome) fun _ => True := by
        cases outcome with
        | ok resolved => exact Keeps.pure trivial
        | error reason =>
            refine Keeps.bind (ih fun a ha => h a (List.mem_cons_of_mem _ ha)) fun rest _ => ?_
            split <;> exact Keeps.pure trivial
      split
      · rename_i haccepts
        exact Keeps.bind (h a List.mem_cons_self haccepts) fun outcome _ => hrest outcome
      · exact hrest (.error (disabled version))

theorem tryAll_keeps (hinv : scope.SparesReading inv) {as : List Access}
    (h : ∀ a ∈ as, a.repository.accepts artifact.coordinates.version →
      ∀ path, Reads artifact fileVersion path → scope.Covers c.settings a path) :
    Keeps inv (tryAll c artifact fileVersion as) fun _ => True :=
  tryAll_keeps_of fun a ha haccepts => tryRepository_keeps hinv (h a ha haccepts)

theorem fileVersion_keeps (hinv : scope.Spares inv) {usable : List Access}
    (h : ∀ base, artifact.coordinates.version = .snapshot base → ∀ a ∈ usable,
      a.repository.snapshotsEnabled → Resolution.Covered scope c.settings
        artifact.coordinates.groupArtifact (some artifact.coordinates.version.directory) a) :
    Keeps inv (Download.fileVersion c artifact usable) artifact.coordinates.version.Names := by
  unfold Download.fileVersion
  dsimp only
  split
  · rename_i base hbase
    refine Keeps.bind (Resolution.resolveMerged_keeps hinv fun a ha => ?_) fun _ _ =>
      Keeps.pure (hbase ▸ trivial)
    obtain ⟨hmem, henabled⟩ := List.mem_filter.1 ha
    exact h base hbase a hmem henabled
  · rename_i hfixed
    refine Keeps.pure ?_
    unfold Version.Names
    split
    · trivial
    · rfl

end Download

end Depot
