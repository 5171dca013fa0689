import Depot.Proofs.Candidates
import Depot.Proofs.LayoutNames

/-!
What is opened in local repositories. Paths are made of what was asked for and of what metadata
says, and nothing keeps them below the directory of the repository but their own names. Most do, and
which ones do not is told by their names alone.
-/

namespace Depot

open Http Layout Normalization Repository Run Text

/-- The files and directories of a repository that an operation may look at. -/
inductive Operation.Reads (operation : Operation) : Location → Prop
  | copy {artifact : Artifact} {text version : String} : operation.artifact? = some artifact →
      artifact.coordinates.version.Names text → version ∈ Download.fileVersions artifact text →
      Reads operation ⟨artifact.coordinates.groupArtifact,
        [artifact.coordinates.version.directory, fileName artifact version]⟩
  | companion {artifact : Artifact} {text version extension : String} {packaging : Option String} :
      operation.artifact? = some artifact → artifact.coordinates.version.Names text →
      version ∈ Download.fileVersions artifact text → artifact.isPom →
      Project.companion? packaging = some extension →
      Reads operation ⟨artifact.coordinates.groupArtifact, [artifact.coordinates.version.directory,
        fileName ⟨artifact.coordinates, none, extension⟩ version]⟩
  | builds {artifact : Artifact} {base name : String} : operation.artifact? = some artifact →
      artifact.coordinates.version = .snapshot base → name ∈ [metadataName, localMetadataName] →
      Reads operation ⟨artifact.coordinates.groupArtifact,
        [artifact.coordinates.version.directory, name]⟩
  | versions {ga : GroupArtifact} {name : String} : operation.groupArtifact? = some ga →
      name ∈ [metadataName, localMetadataName] → Reads operation ⟨ga, [name]⟩
  | listing {ga : GroupArtifact} : operation.groupArtifact? = some ga → Reads operation ⟨ga, []⟩

/-- Bounds on the file system alone: what an operation may look at, joined to the directories of the
repositories that it works with. -/
def Operation.fileScope (c : Configuration) (operation : Operation) : Scope where
  sends _ := True
  opens path := ∃ r ∈ operation.supplied c, ∃ root location,
    r.canonical.localPath? = some root ∧ operation.Reads location ∧
      path = Files.join root (Utf8.encode location.path)

variable {c : Configuration} {operation : Operation}

-- Nothing here depends on what a verdict says.
attribute [local irreducible] verdict

theorem covers_fileScope {a : Access} (ha : a.IsCandidate (fun _ => True) (operation.supplied c))
    {location : Location} (h : operation.Reads location) :
    (operation.fileScope c).Covers c.settings a location.path ∧
      (operation.fileScope c).CoversListing c.settings a location.path := by
  obtain ⟨r, hr, ha, -⟩ := ha
  cases hplace : a.place with
  | directory root =>
      have hroot : r.canonical.localPath? = some root := localPath?_of_place (ha ▸ hplace)
      have hopens : (operation.fileScope c).opens
          (Files.join root (Utf8.encode location.path)) := ⟨r, hr, root, location, hroot, h, rfl⟩
      exact ⟨(Scope.covers_directory hplace).2 hopens,
        (Scope.coversListing_directory hplace).2 hopens⟩
  | remote base =>
      have hsends (path : String) : (operation.fileScope c).Covers c.settings a path :=
        (Scope.covers_remote hplace).2 fun _ _ _ _ _ => trivial
      exact ⟨hsends _, (Scope.coversListing_remote hplace).2 (hsends _)⟩

theorem coversOperation_fileScope (c : Configuration) (operation : Operation) :
    (operation.fileScope c).CoversOperation (fun _ => True) c operation where
  verdict _ _ := Scope.coversVerdict_of_forall fun _ => trivial
  builds artifact hartifact base hbase a ha := by
    refine ⟨fun _ => ?_, ?_, fun hnone => nomatch hnone⟩
    · exact (covers_fileScope ha (.builds hartifact hbase (by simp))).1
    · exact (covers_fileScope ha (.builds hartifact hbase (by simp))).1
  copies artifact hartifact text htext a ha path hpath := by
    cases hpath with
    | copy hversion => exact (covers_fileScope ha (.copy hartifact htext hversion)).1
    | companion hversion hpom hextension =>
        exact (covers_fileScope ha (.companion hartifact htext hversion hpom hextension)).1
  versions ga hga a ha := by
    refine ⟨fun _ => ?_, ?_, fun _ => ?_⟩
    · exact (covers_fileScope ha (.versions hga (by simp))).1
    · exact (covers_fileScope ha (.versions hga (by simp))).1
    · exact (covers_fileScope ha (.listing hga)).2

/-- An operation opens what it may look at in local repositories, and nothing else. -/
theorem Operation.opened_after (c : Configuration) (operation : Operation) (s : Session) :
    ∃ more, (operation.after c s).opened = s.opened ++ more ∧
      ∀ path ∈ more, (operation.fileScope c).opens path := by
  have hinv := (operation.fileScope c).admits_within (fun _ => True) s
  have hstart : Session.Within (operation.fileScope c) s s ∧ s.Trusts fun _ => True :=
    ⟨.refl _ s, fun _ _ => trivial⟩
  exact (Operation.after_keeps hinv (coversOperation_fileScope c operation) hstart).1.opened

/-- What is read in any local repository stays below its directory. -/
def Layout.Location.StaysBelow (location : Location) : Prop :=
  ∀ (r : Repository) (root : Bytes), r.localPath? = some root →
    Files.Below root (Files.join root (Utf8.encode location.path))

theorem Layout.Location.staysBelow_iff (location : Location) :
    location.StaysBelow ↔ location.IsContained := by
  rw [← isContained_path_iff]
  constructor
  · intro h
    have hA := h { id := "", uri := "file:///a" } [0x2F, 0x61] (by decide +kernel)
    have hB := h { id := "", uri := "file:///b" } [0x2F, 0x62] (by decide +kernel)
    exact Files.isContained_of_below (a := [0x61]) (b := [0x62]) (by decide) (by simp) (by simp)
      (by decide) (by decide) hA hB
  · intro h r root hroot
    exact Files.below_join (localPath?_ne_nil hroot) h

/-- A path that the service reads as that of an artifact leads out of local repositories if its
group begins with a dot, or if it goes up twice from a group of one directory. -/
theorem staysBelow_of_readPath {path text : String} {artifact : Artifact}
    (h : readPath path = .ok artifact) (htext : '/' ∉ text.toList) :
    Location.StaysBelow ⟨artifact.coordinates.groupArtifact,
        [artifact.coordinates.version.directory, fileName artifact text]⟩ ↔
      artifact.coordinates.group.toList.head? ≠ some '.' ∧
        ¬(artifact.coordinates.artifact = ".." ∧ artifact.coordinates.version.directory = ".." ∧
          level artifact.coordinates.group = 1) := by
  have hflat := isFlat_of_readPath h
  have hclassifier : '/' ∉ (classifierPart artifact.classifier).toList := by
    cases hc : artifact.classifier with
    | none => simp [classifierPart]
    | some s => simpa [classifierPart] using hflat.classifier s hc
  have hname : '/' ∉ (fileName artifact text).toList := by
    simp only [fileName, String.toList_append, List.mem_append, not_or]
    exact ⟨⟨⟨⟨⟨hflat.artifact, by decide⟩, htext⟩, hclassifier⟩, by decide⟩, hflat.extension⟩
  have hdash : '-' ∈ (fileName artifact text).toList := by
    simp [fileName]
  rw [Location.staysBelow_iff, isContained_iff_of_isFlat hflat hname hdash]

/-- What is opened in local repositories, and when it is sure to lie below their directories: the
group has to begin below, and the names behind it must never climb above the repository. -/
theorem opened_below_root_iff (c : Configuration) (operation : Operation) (s : Session) :
    (∃ more, (operation.after c s).opened = s.opened ++ more ∧
      ∀ path ∈ more, ∃ r ∈ operation.supplied c, ∃ root location,
        r.canonical.localPath? = some root ∧ operation.Reads location ∧
          path = Files.join root (Utf8.encode location.path)) ∧
    (∀ location : Location, location.StaysBelow ↔
      beginsBelow location.groupArtifact.group ∧
        Files.descends (level location.groupArtifact.group)
          (names location.groupArtifact.artifact ++ location.below.flatMap names)) ∧
    ∀ path text artifact, readPath path = .ok artifact → '/' ∉ text.toList →
      (Location.StaysBelow ⟨artifact.coordinates.groupArtifact,
          [artifact.coordinates.version.directory, fileName artifact text]⟩ ↔
        artifact.coordinates.group.toList.head? ≠ some '.' ∧
          ¬(artifact.coordinates.artifact = ".." ∧
            artifact.coordinates.version.directory = ".." ∧
              level artifact.coordinates.group = 1)) := by
  refine ⟨operation.opened_after c s, fun location => location.staysBelow_iff, ?_⟩
  intro path text artifact h htext
  exact staysBelow_of_readPath h htext

/-- The file of a release whose names are ordinary ones. -/
theorem staysBelow_of_ordinary :
    Location.StaysBelow ⟨⟨"org.x", "a"⟩, ["1.0", "a-1.0.jar"]⟩ := by
  have hread : readPath "org/x/a/1.0/a-1.0.jar" =
      .ok ⟨⟨"org.x", "a", .release "1.0"⟩, none, "jar"⟩ := by
    decide +kernel
  have hname : fileName ⟨⟨"org.x", "a", .release "1.0"⟩, none, "jar"⟩ "1.0" = "a-1.0.jar" := by
    decide +kernel
  have hbelow := (opened_below_root_iff { repositories := [] } (.getFile "org/x/a/1.0/a-1.0.jar")
    {}).2.2 _ "1.0" _ hread (by decide)
  rw [hname] at hbelow
  exact hbelow.2 ⟨by decide, by decide⟩

/-- A group that begins with a dot: the file is opened in the directory x at the top. -/
theorem getFile_opens_outside :
    ∃ path ∈ (Service.getFile
        { localRepository := some { id := "local", uri := "file:///r" }, repositories := [] }
        "./x/a/1.0/a-1.0.jar" {}).2.opened, ¬Files.Below (Utf8.encode "/r") path := by
  decide +kernel

end Depot
