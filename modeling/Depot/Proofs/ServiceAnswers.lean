import Depot.Proofs.FirstCopy
import Depot.Proofs.HeaderText

/-!
What the service answers to a request for a file: what reading the path and the download of what was
read amount to. The exception is a file from a repository whose id no header can hold.
-/

namespace Depot

open Http Text

theorem Repository.id_canonical (r : Repository) : r.canonical.id = r.id := rfl

-- What a verdict says and what a canonical URI is are of no interest from here on.
attribute [local irreducible] Normalization.verdict Repository.canonical

/-- A copy comes from a supplied repository. -/
theorem Download.canonical_of_downloadArtifact {c : Configuration} {artifact : Artifact}
    {preferred : Option Repository} {rs : List Repository} {s : Session} {resolved : Resolved}
    (h : (downloadArtifact c artifact preferred rs s).1 = .ok resolved) :
    ∃ r ∈ sources c preferred rs, resolved.repository = r.canonical := by
  obtain ⟨before, a, after, -, -, husable, -, -, -, hrepository, -⟩ :=
    exists_of_tryAll_ok ((downloadArtifact_eq_ok_iff rfl rfl).1 (Prod.ext h rfl))
  have ha : a ∈ (candidates c preferred rs s).1.usable :=
    husable ▸ List.mem_append_right before List.mem_cons_self
  obtain ⟨r, hr, rfl⟩ := canonical_of_mem_usable a ha
  exact ⟨r, hr, hrepository.trans (Repository.repository_access _)⟩

namespace Service

variable {c : Configuration} {path : String} {s : Session}

/-- The ways in which a request for a file ends. -/
inductive Ends (c : Configuration) (path : String) (s : Session) : Response → Prop
  | rejected {e : Layout.PathError} : Layout.readPath path = .error e →
      Ends c path s (plain 400 e.message)
  | missing {artifact : Artifact} {failure : Download.Failure} :
      Layout.readPath path = .ok artifact →
      (Download.downloadArtifact c artifact none c.repositories s).1 = .error failure →
      Ends c path s (plain 404 failure.message)
  | found {artifact : Artifact} {resolved : Download.Resolved} :
      Layout.readPath path = .ok artifact →
      (Download.downloadArtifact c artifact none c.repositories s).1 = .ok resolved →
      IsHeaderText resolved.repository.id →
      Ends c path s ⟨200, "application/octet-stream", some (Utf8.encode resolved.repository.id),
        resolved.content⟩
  | unsendable {artifact : Artifact} {resolved : Download.Resolved} :
      Layout.readPath path = .ok artifact →
      (Download.downloadArtifact c artifact none c.repositories s).1 = .ok resolved →
      ¬IsHeaderText resolved.repository.id →
      Ends c path s (plain 500 Invalid.headerValue.message)

theorem getFile_ends (c : Configuration) (path : String) (s : Session) :
    Ends c path s (getFile c path s).1 := by
  unfold getFile
  cases hread : Layout.readPath path with
  | error e => exact .rejected hread
  | ok artifact =>
      dsimp only
      rw [Run.bind_apply]
      cases hdownload : (Download.downloadArtifact c artifact none c.repositories s).1 with
      | error failure => exact .missing hread hdownload
      | ok resolved =>
          dsimp only
          rw [Run.pure_apply, file]
          dsimp only
          split
          · rename_i hvalid
            exact .found hread hdownload ((Header.isValue_encode_iff _).1 hvalid)
          · rename_i hinvalid
            exact .unsendable hread hdownload fun htext =>
              hinvalid ((Header.isValue_encode_iff _).2 htext)

/-- The service answers exactly what reading the path and the download amount to, if the id of the
repository that the file comes from is the text of a header. If it is not, the file is not served
although it was found; that can not happen if all ids in the configuration are texts of headers. -/
theorem getFile_answers_iff (c : Configuration) (path : String) (s : Session) :
    let answer := (getFile c path s).1
    let Reads (artifact : Artifact) := Layout.readPath path = .ok artifact
    let download (artifact : Artifact) :=
      (Download.downloadArtifact c artifact none c.repositories s).1
    (answer.status = 400 ↔ ∃ e, Layout.readPath path = .error e) ∧
    (answer.status = 404 ↔ ∃ artifact, Reads artifact ∧
      ∃ failure, download artifact = .error failure) ∧
    (answer.status = 200 ↔ ∃ artifact, Reads artifact ∧
      ∃ resolved, download artifact = .ok resolved ∧ IsHeaderText resolved.repository.id) ∧
    (answer.status = 500 ↔ ∃ artifact, Reads artifact ∧
      ∃ resolved, download artifact = .ok resolved ∧ ¬IsHeaderText resolved.repository.id) ∧
    answer.status ∈ [200, 400, 404, 500] ∧
    (∀ e, Layout.readPath path = .error e → answer.body = Utf8.encode e.message) ∧
    (∀ artifact, Reads artifact →
      (∀ failure, download artifact = .error failure →
        answer.body = Utf8.encode failure.message) ∧
      ∀ resolved, download artifact = .ok resolved → IsHeaderText resolved.repository.id →
        answer.body = resolved.content ∧
          answer.resolvedRepository = some (Utf8.encode resolved.repository.id)) ∧
    ((∀ r ∈ Download.sources c none c.repositories, IsHeaderText r.id) →
      answer.status ≠ 500) := by
  intro answer Reads download
  have hends : Ends c path s answer := getFile_ends c path s
  clear_value answer
  cases hends with
  | rejected hread => simp [hread, plain, Reads]
  | missing hread hdownload => simp [hread, hdownload, plain, Reads, download]
  | found hread hdownload htext => simp [hread, hdownload, htext, Reads, download]
  | unsendable hread hdownload htext =>
      obtain ⟨r, hr, hcanonical⟩ := Download.canonical_of_downloadArtifact hdownload
      have hid : ¬IsHeaderText r.id := by
        rwa [← Repository.id_canonical, ← hcanonical]
      have hexists : ∃ r ∈ Download.sources c none c.repositories, ¬IsHeaderText r.id :=
        ⟨r, hr, hid⟩
      simpa [hread, hdownload, htext, plain, Reads, download] using hexists

/-- A repository whose id has two lines: its file is found, and not served. -/
theorem not_forall_getFile_status :
    ¬∀ (c : Configuration) (path : String) (s : Session) (artifact : Artifact)
        (resolved : Download.Resolved), Layout.readPath path = .ok artifact →
      (Download.downloadArtifact c artifact none c.repositories s).1 = .ok resolved →
        (getFile c path s).1.status = 200 := by
  intro h
  let r : Repository := { id := "a\nb", uri := "file:///r" }
  let c : Configuration := { localRepository := some r, repositories := [] }
  let s : Session :=
    { files := Files.addFile [] (["r", "g", "a", "1", "a-1.jar"].map Utf8.encode) [120] }
  let artifact : Artifact := ⟨⟨"g", "a", .release "1"⟩, none, "jar"⟩
  have hserved := h c "g/a/1/a-1.jar" s artifact ⟨artifact.coordinates, r, [120], "a-1.jar"⟩
    (by decide +kernel) (by decide +kernel)
  exact absurd hserved (by decide +kernel)

end Service

end Depot
