import Depot.Download
import Depot.Proofs.Run

/-!
When an attempt at one repository succeeds. The version in the name of the file is settled by the
first request alone; everything after it, the check of the content and the search for the binary
beside a description, speaks of the file under that version.
-/

namespace Depot

open Http Repository Run

namespace Digest

/-- The content has every hash that was announced with it. -/
structure Blob.IsIntact (blob : Blob) : Prop where
  sha1 : ∀ hash, blob.checksums.sha1 = some hash → Sha1.digest blob.data = hash
  md5 : ∀ hash, blob.checksums.md5 = some hash → Md5.digest blob.data = hash

theorem Check.isValid_add {algorithm : Algorithm} {expected data : Bytes} :
    (Check.add { algorithm, expected } data).isValid = true ↔ algorithm.digest data = expected := by
  rw [Check.isValid, beq_iff_eq]
  rfl

theorem Blob.mismatch?_eq_none {blob : Blob} : blob.mismatch? = none ↔ blob.IsIntact := by
  have hall : blob.mismatch? = none ↔
      ∀ check ∈ blob.checksums.checks, (check.add blob.data).isValid = true := by
    rw [Blob.mismatch?, Checksums.mismatch?, Option.map_eq_none_iff, List.find?_eq_none]
    simp
  rw [hall]
  constructor
  · intro h
    constructor
    · intro hash hhash
      refine Check.isValid_add.1 (h { algorithm := .sha1, expected := hash } ?_)
      simp [Checksums.checks, hhash]
    · intro hash hhash
      refine Check.isValid_add.1 (h { algorithm := .md5, expected := hash } ?_)
      simp [Checksums.checks, hhash]
  · intro h check hcheck
    simp only [Checksums.checks, List.mem_append, Option.mem_toList,
      Option.map_eq_some_iff] at hcheck
    rcases hcheck with ⟨hash, hhash, rfl⟩ | ⟨hash, hhash, rfl⟩
    · exact Check.isValid_add.2 (h.sha1 hash hhash)
    · exact Check.isValid_add.2 (h.md5 hash hhash)

end Digest

namespace Repository.Access

variable {settings : Settings} {a : Access} {path : String} {blob : Digest.Blob} {s s' : Session}

/-- Nothing is announced with what is in a directory. -/
theorem fetch_directory_eq_some_iff {root : Files.Path} (hplace : a.place = .directory root) :
    a.fetch settings path s = (.ok (some blob), s') ↔
      blob.checksums = {} ∧
        Session.readFile (Files.join root (Text.Utf8.encode path)) s = (.ok blob.data, s') := by
  unfold fetch
  rw [hplace]
  dsimp only
  rw [bind_apply]
  match Session.readFile (Files.join root (Text.Utf8.encode path)) s with
  | (.ok data, mid) =>
      constructor
      · intro h
        cases h
        exact ⟨rfl, rfl⟩
      · rintro ⟨hchecksums, h⟩
        cases h
        rw [← hchecksums]
        rfl
  | (.error e, mid) =>
      constructor
      · intro h
        cases e <;> cases h
      · rintro ⟨-, h⟩
        cases h

/-- All that is announced with a file of a server is in the headers of the response that it is the
body of. -/
theorem fetch_remote_eq_some_iff {base : String} (hplace : a.place = .remote base) :
    a.fetch settings path s = (.ok (some blob), s') ↔
      ∃ response, Status.isSuccess response.status = true ∧
        blob = ⟨response.body, Digest.Checksums.announced response.headers⟩ ∧
        Session.hold (.negotiate settings s.lookup (Request.get (base ++ path))
          a.repository.credentials) s = (.ok response, s') := by
  unfold fetch
  rw [hplace]
  dsimp only
  rw [bind_apply, get_apply, bind_apply]
  constructor
  · intro h
    obtain ⟨response, hresponse, hsuccess, hblob⟩ :=
      received_eq_some_iff.1 (congrArg Prod.fst h)
    have hafter := congrArg Prod.snd h
    exact ⟨response, hsuccess, hblob, Prod.ext hresponse hafter⟩
  · rintro ⟨response, hsuccess, hblob, hheld⟩
    rw [hheld]
    exact Prod.ext (received_eq_some_iff.2 ⟨response, rfl, hsuccess, hblob⟩) rfl

end Repository.Access

namespace Validation

variable {settings : Settings} {a : Access} {artifact : Artifact} {text path : String}
  {blob : Digest.Blob} {p : Project} {s : Session}

/-- The file describes a project that names itself or its parent. -/
structure Describes (data : Bytes) (p : Project) : Prop where
  read : Project.ofBytes data = .ok p
  named : p.artifact.isSome ∨ p.parent.isSome

theorem readProject_eq_ok_iff {data : Bytes} : readProject data = .ok p ↔ Describes data p := by
  unfold readProject
  constructor
  · intro h
    split at h
    · cases h
    · rename_i q hread
      split at h
      · cases h
      · rename_i hnamed
        cases h
        refine ⟨hread, ?_⟩
        by_cases hartifact : p.artifact.isSome
        · exact .inl hartifact
        · refine .inr ?_
          simpa [Option.isNone_iff_eq_none, Option.not_isSome_iff_eq_none.1 hartifact,
            Option.isSome_iff_ne_none] using hnamed
  · intro h
    rw [h.read]
    dsimp only
    rw [if_neg]
    intro hnameless
    simp only [Bool.and_eq_true, Option.isNone_iff_eq_none] at hnameless
    have hnamed := h.named
    rw [hnameless.1, hnameless.2] at hnamed
    simp at hnamed

/-- What the kind of the file asks of its content. -/
def Suits (artifact : Artifact) (data : Bytes) : Option Project → Prop
  | none => artifact.isPom = false
  | some p => artifact.isPom = true ∧ Describes data p

/-- What the content alone has to be like. -/
theorem inspect_eq_ok_iff {found : Option Project} : inspect artifact path blob = .ok found ↔
    blob.data ≠ [] ∧ blob.IsIntact ∧ Suits artifact blob.data found := by
  unfold inspect
  by_cases hempty : blob.data = []
  · simp [hempty]
  · rw [if_neg (by simpa using hempty)]
    by_cases hintact : blob.IsIntact
    · rw [Digest.Blob.mismatch?_eq_none.2 hintact]
      by_cases hpom : artifact.isPom = true
      · rw [if_neg (by simp [hpom])]
        cases hread : readProject blob.data with
        | error reason => cases found <;> simp [Suits, ← readProject_eq_ok_iff, hread, hpom]
        | ok q =>
            cases found <;> simp [Suits, ← readProject_eq_ok_iff, hread, hempty, hintact, hpom]
      · rw [if_pos (by simpa using hpom)]
        cases found <;> simp [Suits, hempty, hintact, hpom]
    · cases hmismatch : blob.mismatch? with
      | none => exact absurd (Digest.Blob.mismatch?_eq_none.1 hmismatch) hintact
      | some algorithm => simp [hintact]

/-- There is a file at this path, and it is not empty. -/
def Holds (settings : Settings) (a : Access) (path : String) (s : Session) : Prop :=
  ∃ blob, (a.fetch settings path s).1 = .ok (some blob) ∧ blob.data ≠ []

theorem checkCompanion_eq_ok_iff :
    (checkCompanion settings a path s).1 = .ok () ↔ Holds settings a path s := by
  unfold checkCompanion Holds
  rw [bind_apply]
  match (a.fetch settings path s).1 with
  | .error e => simp [pure_apply]
  | .ok none => simp [pure_apply]
  | .ok (some blob) => by_cases hempty : blob.data = [] <;> simp [pure_apply, hempty]

/-- What makes a file the valid copy of an artifact. A description of a project that is published
with a binary needs that binary in a local repository, under the same version. -/
structure IsValid (settings : Settings) (a : Access) (artifact : Artifact) (text : String)
    (blob : Digest.Blob) (s : Session) : Prop where
  nonempty : blob.data ≠ []
  intact : blob.IsIntact
  describes : artifact.isPom = true → ∃ p, Describes blob.data p ∧
    (a.repository.isLocal = true → ∀ extension, Project.companion? p.packaging = some extension →
      Holds settings a (Layout.path ⟨artifact.coordinates, none, extension⟩ text) s)

theorem validate_eq_ok_iff : (validate settings a artifact text blob s).1 = .ok () ↔
    IsValid settings a artifact text blob s := by
  unfold validate
  cases hinspect : inspect artifact (Layout.path artifact text) blob with
  | error e =>
      refine ⟨fun h => (by cases h), fun h => ?_⟩
      have hsuits : ∃ found, Suits artifact blob.data found := by
        by_cases hpom : artifact.isPom = true
        · obtain ⟨p, hp, -⟩ := h.describes hpom
          exact ⟨some p, hpom, hp⟩
        · exact ⟨none, Bool.eq_false_iff.2 hpom⟩
      obtain ⟨found, hfound⟩ := hsuits
      rw [inspect_eq_ok_iff.2 ⟨h.nonempty, h.intact, hfound⟩] at hinspect
      cases hinspect
  | ok found =>
      obtain ⟨hnonempty, hintact, hfound⟩ := inspect_eq_ok_iff.1 hinspect
      cases found with
      | none =>
          refine ⟨fun _ => ⟨hnonempty, hintact, fun hpom => ?_⟩, fun _ => rfl⟩
          cases hfound.symm.trans hpom
      | some p =>
          obtain ⟨hpom, hp⟩ := hfound
          have hvalid : IsValid settings a artifact text blob s ↔
              (a.repository.isLocal = true → ∀ extension,
                Project.companion? p.packaging = some extension →
                Holds settings a (Layout.path ⟨artifact.coordinates, none, extension⟩ text) s) := by
            refine ⟨fun h => ?_, fun h => ⟨hnonempty, hintact, fun _ => ⟨p, hp, h⟩⟩⟩
            obtain ⟨q, hq, hcompanion⟩ := h.describes hpom
            obtain rfl : q = p := Except.ok.inj (hq.read.symm.trans hp.read)
            exact hcompanion
          rw [hvalid]
          cases hlocal : a.repository.isLocal <;>
            cases hextension : Project.companion? p.packaging <;>
            simp [hextension, pure_apply, checkCompanion_eq_ok_iff]

end Validation

namespace Download

variable {c : Configuration} {a : Access} {artifact : Artifact} {text version : String}
  {s start : Session}

/-- The version under which a repository's copy is looked for, and the session in which that is
done: the one that was asked for if there is a file of it, and in a local repository the name of the
snapshot itself if there is none. A request that fails settles nothing. -/
inductive Chooses (c : Configuration) (a : Access) (artifact : Artifact) (text : String)
    (s : Session) : String → Session → Prop
  | asked {blob : Digest.Blob} {s' : Session} :
      a.fetch c.settings (Layout.path artifact text) s = (.ok (some blob), s') →
      Chooses c a artifact text s text s
  | installed {mid : Session} :
      a.fetch c.settings (Layout.path artifact text) s = (.ok none, mid) →
      a.repository.isLocal = true → artifact.coordinates.version.isSnapshot = true →
      text ≠ artifact.coordinates.version.directory →
      Chooses c a artifact text s artifact.coordinates.version.directory mid

theorem fetchVersion_of_found {blob : Digest.Blob} {mid : Session}
    (h : a.fetch c.settings (Layout.path artifact text) s = (.ok (some blob), mid)) :
    fetchVersion c a artifact text s = (.ok (some (blob, text)), mid) := by
  unfold fetchVersion
  rw [bind_apply, h]
  rfl

theorem fetchVersion_of_installed {blob : Digest.Blob} {mid s' : Session}
    (h : a.fetch c.settings (Layout.path artifact text) s = (.ok none, mid))
    (hinstalled : a.repository.isLocal = true ∧ artifact.coordinates.version.isSnapshot = true ∧
      text ≠ artifact.coordinates.version.directory) :
    fetchVersion c a artifact text s = (.ok (some (blob, version)), s') ↔
      version = artifact.coordinates.version.directory ∧
        a.fetch c.settings (Layout.path artifact version) mid = (.ok (some blob), s') := by
  obtain ⟨hlocal, hsnapshot, hother⟩ := hinstalled
  unfold fetchVersion
  rw [bind_apply, h]
  simp only [hlocal, hsnapshot, bne_iff_ne.2 hother, Bool.and_true, if_true]
  rw [bind_apply]
  constructor
  · intro hsome
    cases hsecond : a.fetch c.settings
        (Layout.path artifact artifact.coordinates.version.directory) mid with
    | mk outcome s'' =>
        rw [hsecond] at hsome
        match outcome with
        | .error e => cases hsome
        | .ok none => cases hsome
        | .ok (some blob') =>
            cases hsome
            exact ⟨rfl, hsecond⟩
  · rintro ⟨rfl, hsecond⟩
    rw [hsecond]
    rfl

theorem fetchVersion_of_missing {mid : Session}
    (h : a.fetch c.settings (Layout.path artifact text) s = (.ok none, mid))
    (hmissing : ¬(a.repository.isLocal = true ∧ artifact.coordinates.version.isSnapshot = true ∧
      text ≠ artifact.coordinates.version.directory)) :
    fetchVersion c a artifact text s = (.ok none, mid) := by
  unfold fetchVersion
  rw [bind_apply, h]
  dsimp only
  rw [if_neg (by simpa [and_assoc] using hmissing)]
  rfl

theorem fetchVersion_eq_ok_iff {blob : Digest.Blob} {s' : Session} :
    fetchVersion c a artifact text s = (.ok (some (blob, version)), s') ↔
      ∃ start, Chooses c a artifact text s version start ∧
        a.fetch c.settings (Layout.path artifact version) start = (.ok (some blob), s') := by
  constructor
  · intro h
    match hfirst : a.fetch c.settings (Layout.path artifact text) s with
    | (.error e, mid) =>
        unfold fetchVersion at h
        rw [bind_apply, hfirst] at h
        cases h
    | (.ok (some blob'), mid) =>
        rw [fetchVersion_of_found hfirst] at h
        cases h
        exact ⟨s, .asked hfirst, hfirst⟩
    | (.ok none, mid) =>
        by_cases hinstalled : a.repository.isLocal = true ∧
            artifact.coordinates.version.isSnapshot = true ∧
            text ≠ artifact.coordinates.version.directory
        · obtain ⟨rfl, hsecond⟩ := (fetchVersion_of_installed hfirst hinstalled).1 h
          obtain ⟨hlocal, hsnapshot, hother⟩ := hinstalled
          exact ⟨mid, .installed hfirst hlocal hsnapshot hother, hsecond⟩
        · rw [fetchVersion_of_missing hfirst hinstalled] at h
          cases h
  · rintro ⟨start, hchooses, hfetch⟩
    cases hchooses with
    | asked => exact fetchVersion_of_found hfetch
    | installed hfirst hlocal hsnapshot hother =>
        exact (fetchVersion_of_installed hfirst ⟨hlocal, hsnapshot, hother⟩).2 ⟨rfl, hfetch⟩

/-- Names of files differ if the versions in them do. -/
theorem fileName_inj {v w : String} :
    Layout.fileName artifact v = Layout.fileName artifact w ↔ v = w := by
  simp [Layout.fileName, String.append_left_inj, String.append_right_inj]

/-- A resolved artifact is what was got from the repository, under the version it was got under. -/
def copyOf (artifact : Artifact) (a : Access) (blob : Digest.Blob) (version : String) :
    Resolved where
  coordinates := artifact.coordinates
  repository := a.repository
  content := blob.data
  fileName := Layout.fileName artifact version

theorem fst_tryRepository_eq_ok_iff {resolved : Resolved} :
    (tryRepository c a artifact text s).1 = .ok resolved ↔
      ∃ blob version mid, fetchVersion c a artifact text s = (.ok (some (blob, version)), mid) ∧
        (Validation.validate c.settings a artifact version blob mid).1 = .ok () ∧
        resolved = copyOf artifact a blob version := by
  unfold tryRepository
  rw [bind_apply]
  cases hfetch : fetchVersion c a artifact text s with
  | mk outcome mid =>
      match outcome with
      | .error e => exact ⟨fun h => (by cases h), fun ⟨_, _, _, h, _⟩ => (by cases h)⟩
      | .ok none => exact ⟨fun h => (by cases h), fun ⟨_, _, _, h, _⟩ => (by cases h)⟩
      | .ok (some (blob, version)) =>
          dsimp only
          rw [bind_apply]
          cases hvalid : (Validation.validate c.settings a artifact version blob mid).1 with
          | error e =>
              refine ⟨fun h => (by cases h), ?_⟩
              rintro ⟨blob', version', mid', h, hvalid', -⟩
              cases h
              cases hvalid.symm.trans hvalid'
          | ok _ =>
              constructor
              · intro h
                cases h
                exact ⟨blob, version, mid, rfl, hvalid, rfl⟩
              · rintro ⟨blob', version', mid', h, -, rfl⟩
                cases h
                rfl

/-- An attempt succeeds exactly if there is a version under which the file is looked for, and the
file that is delivered under it is a valid copy. The content is that of this file, and its name is
the last part of the path that it was got from, which holds that version and no other. -/
theorem tryRepository_eq_ok_iff (c : Configuration) (a : Access) (artifact : Artifact)
    (text : String) (s : Session) (resolved : Resolved) :
    (tryRepository c a artifact text s).1 = .ok resolved ↔
      ∃ version start blob mid, Chooses c a artifact text s version start ∧
        a.fetch c.settings (Layout.path artifact version) start = (.ok (some blob), mid) ∧
        Validation.IsValid c.settings a artifact version blob mid ∧
        resolved.coordinates = artifact.coordinates ∧ resolved.repository = a.repository ∧
        resolved.content = blob.data ∧
        Layout.path artifact version = Layout.directory artifact.coordinates.groupArtifact ++ "/" ++
          artifact.coordinates.version.directory ++ "/" ++ resolved.fileName ∧
        ∀ w, resolved.fileName = Layout.fileName artifact w ↔ w = version := by
  rw [fst_tryRepository_eq_ok_iff]
  constructor
  · rintro ⟨blob, version, mid, hfetch, hvalid, rfl⟩
    obtain ⟨start, hchooses, hdelivers⟩ := fetchVersion_eq_ok_iff.1 hfetch
    refine ⟨version, start, blob, mid, hchooses, hdelivers, Validation.validate_eq_ok_iff.1 hvalid,
      rfl, rfl, rfl, rfl, fun w => ?_⟩
    exact fileName_inj.trans eq_comm
  · rintro ⟨version, start, blob, mid, hchooses, hdelivers, hvalid, hcoordinates, hrepository,
      hcontent, -, hname⟩
    refine ⟨blob, version, mid, fetchVersion_eq_ok_iff.2 ⟨start, hchooses, hdelivers⟩,
      Validation.validate_eq_ok_iff.2 hvalid, ?_⟩
    cases resolved
    cases hcoordinates
    cases hrepository
    cases hcontent
    cases (hname version).2 rfl
    rfl

end Download

end Depot
