import Depot.Proofs.Operations
import Depot.Proofs.Reading
import Depot.Proofs.Scheduling

/-!
The repositories that operations read from. They are supplied ones in canonical form on which there
is a verdict that they can be used, reached just now or long before; a verdict holds for a key, not
for the description that it was reached on, so what is known of usable repositories is known of
keys.
-/

namespace Depot

open Http Normalization Repository Run

/-- Keys are found usable only if `V` holds of them. -/
def Session.Trusts (s : Session) (V : Key → Prop) : Prop :=
  ∀ key, (key, true) ∈ s.normalized → V key

/-- What is true stays true while a run keeps to the scope, verdicts included. -/
structure Scope.Admits (scope : Scope) (V : Key → Prop) (inv : Session → Prop) : Prop
    extends scope.Spares inv where
  trusts : ∀ s, inv s → s.Trusts V
  verdicts : ∀ s cache, inv s → (∀ key, (key, true) ∈ cache → V key) →
    inv { s with normalized := cache }

theorem Scope.admits_within (scope : Scope) (V : Key → Prop) (start : Session) :
    scope.Admits V fun s => Session.Within scope start s ∧ s.Trusts V where
  toSpares := (scope.spares_within start).and
    (scope.spares_normalized fun cache => ∀ key, (key, true) ∈ cache → V key)
  trusts _ hs := hs.2
  verdicts _ _ hs hcache := ⟨⟨hs.1.contacts, hs.1.opened⟩, hcache⟩

variable {scope : Scope} {V : Key → Prop} {inv : Session → Prop} {c : Configuration}

-- What a verdict says is of no interest here, and unfolding it means reading a URI.
attribute [local irreducible] verdict

/-- Finding out about a repository stays within the scope, and only if `V` holds of its key is it
found usable. -/
def Scope.CoversVerdict (scope : Scope) (V : Key → Prop) (c : Configuration) (r : Repository) :
    Prop :=
  ∀ lookup, (verdict c lookup r.canonical).Sends scope.sends fun usable =>
    usable = true → V (key r.canonical)

theorem Scope.coversVerdict_of_forall (h : ∀ sent, scope.sends sent) {r : Repository} :
    scope.CoversVerdict (fun _ => True) c r :=
  fun _ => Conversation.sends_of_forall h (fun _ _ => trivial) _

/-- A repository that may be read from: a supplied one, if its key is trusted. -/
def Repository.Access.IsCandidate (V : Key → Prop) (supplied : List Repository) (a : Access) :
    Prop :=
  ∃ r ∈ supplied, a = r.canonical.access ∧ V (key r.canonical)

namespace Normalization

theorem normalize_keeps (hinv : scope.Admits V inv) {r : Repository}
    (h : scope.CoversVerdict V c r) :
    Keeps inv (normalize c r) fun found =>
      ∀ r', found = some r' → r' = r.canonical ∧ V (key r.canonical) := by
  have hanswer {usable : Bool} (husable : usable → V (key r.canonical)) :
      ∀ r', answer r.canonical usable = some r' → r' = r.canonical ∧ V (key r.canonical) := by
    intro r' hr'
    unfold answer at hr'
    split at hr'
    · rename_i htrue
      cases hr'
      exact ⟨rfl, husable htrue⟩
    · cases hr'
  refine Keeps.bind Keeps.get fun s hs => ?_
  split
  · rename_i usable hknown
    refine Keeps.pure (hanswer fun htrue => hinv.trusts s hs _ ?_)
    rw [← htrue]
    exact Cache.mem_of_get? hknown
  · refine Keeps.bind Keeps.get fun s _ => ?_
    have hread := Session.hold_keeps hinv.toSparesReading (h s.lookup)
    refine Keeps.bind hread fun usable husable => ?_
    refine Keeps.bind (Keeps.modify fun s hs => hinv.verdicts s _ hs fun k hk => ?_)
      fun _ _ => Keeps.pure (hanswer husable)
    rcases Cache.mem_put hk with hk | hk
    · exact hinv.trusts s hs k hk
    · rw [Prod.mk.injEq] at hk
      exact hk.1 ▸ husable hk.2.symm

theorem normalizeAll_keeps (hinv : scope.Admits V inv) {rs : List Repository}
    (h : ∀ r ∈ rs, scope.CoversVerdict V c r) :
    Keeps inv (normalizeAll c rs) fun _ => True := by
  refine Keeps.bind Keeps.get fun s hs => ?_
  refine Keeps.bind Keeps.get fun s' hs' => ?_
  refine Keeps.bind (Cache.compute_keeps (V := fun key usable => usable = true → V key)
    hinv.toSparesReading ?_ ?_ _) fun t ht => ?_
  · rintro ⟨key, usable⟩ hp htrue
    dsimp only at htrue
    subst htrue
    exact hinv.trusts s' hs' key hp
  · intro call hcall
    simp only [List.map_map, List.mem_map] at hcall
    obtain ⟨r, hr, rfl⟩ := hcall
    exact h r hr s.lookup
  · exact Keeps.bind (Keeps.modify fun s hs => hinv.verdicts s _ hs fun k hk => ht.cache _ hk rfl)
      fun _ _ => Keeps.pure trivial

end Normalization

namespace Download

variable {preferred : Option Repository} {rs : List Repository}

theorem candidates_keeps (hinv : scope.Admits V inv)
    (h : ∀ r ∈ sources c preferred rs, scope.CoversVerdict V c r) :
    Keeps inv (candidates c preferred rs) fun found =>
      ∀ a ∈ found.usable, a.IsCandidate V (sources c preferred rs) := by
  refine Keeps.foldlM (fun found r hr hfound => ?_) (by simp)
  refine Keeps.bind (normalize_keeps hinv (h r hr)) fun answer hanswer => ?_
  cases answer with
  | none => exact Keeps.pure hfound
  | some r' =>
      obtain ⟨rfl, hV⟩ := hanswer r' rfl
      dsimp only
      split
      · exact Keeps.pure hfound
      · refine Keeps.pure fun a ha => ?_
        rcases List.mem_append.1 ha with ha | ha
        · exact hfound a ha
        · exact ⟨r, hr, List.mem_singleton.1 ha, hV⟩

theorem downloadArtifact_keeps (hinv : scope.Admits V inv) {artifact : Artifact}
    (hverdict : ∀ r ∈ sources c preferred rs, scope.CoversVerdict V c r)
    (hbuilds : ∀ base, artifact.coordinates.version = .snapshot base →
      ∀ a : Access, a.IsCandidate V (sources c preferred rs) →
        Resolution.Covered scope c.settings artifact.coordinates.groupArtifact
          (some artifact.coordinates.version.directory) a)
    (hcopies : ∀ text, artifact.coordinates.version.Names text →
      ∀ a : Access, a.IsCandidate V (sources c preferred rs) →
        ∀ path, Reads artifact text path → scope.Covers c.settings a path) :
    Keeps inv (downloadArtifact c artifact preferred rs) fun _ => True := by
  refine Keeps.bind (candidates_keeps hinv hverdict) fun found hfound => ?_
  refine Keeps.bind (fileVersion_keeps hinv.toSpares fun base hbase a ha _ =>
    hbuilds base hbase a (hfound a ha)) fun version hversion => ?_
  dsimp only
  split
  · exact Keeps.pure trivial
  · refine Keeps.bind (tryAll_keeps hinv.toSparesReading fun a ha _ =>
      hcopies version hversion a (hfound a ha)) fun outcome _ => ?_
    split <;> exact Keeps.pure trivial

theorem downloadMetadata_keeps (hinv : scope.Admits V inv) {ga : GroupArtifact}
    (hverdict : ∀ r ∈ sources c preferred rs, scope.CoversVerdict V c r)
    (hversions : ∀ a : Access, a.IsCandidate V (sources c preferred rs) →
      Resolution.Covered scope c.settings ga none a) :
    Keeps inv (downloadMetadata c ga preferred rs) fun _ => True :=
  Keeps.bind (candidates_keeps hinv hverdict) fun _ hfound =>
    Resolution.resolveMerged_keeps hinv.toSpares fun a ha => hversions a (hfound a ha)

end Download

/-- Everything that an operation may touch is within the scope: finding out about its repositories,
and reading from those that may be read from. -/
structure Scope.CoversOperation (scope : Scope) (V : Key → Prop) (c : Configuration)
    (operation : Operation) : Prop where
  verdict : ∀ r ∈ operation.supplied c, scope.CoversVerdict V c r
  builds : ∀ artifact, operation.artifact? = some artifact →
    ∀ base, artifact.coordinates.version = .snapshot base →
      ∀ a : Access, a.IsCandidate V (operation.supplied c) →
        Resolution.Covered scope c.settings artifact.coordinates.groupArtifact
          (some artifact.coordinates.version.directory) a
  copies : ∀ artifact, operation.artifact? = some artifact →
    ∀ text, artifact.coordinates.version.Names text →
      ∀ a : Access, a.IsCandidate V (operation.supplied c) →
        ∀ path, Download.Reads artifact text path → scope.Covers c.settings a path
  versions : ∀ ga, operation.groupArtifact? = some ga →
    ∀ a : Access, a.IsCandidate V (operation.supplied c) →
      Resolution.Covered scope c.settings ga none a

theorem Operation.after_keeps (hinv : scope.Admits V inv) {operation : Operation}
    (h : scope.CoversOperation V c operation) {s : Session} (hs : inv s) :
    inv (operation.after c s) := by
  have hdownload {artifact : Artifact} {preferred : Option Repository} {rs : List Repository}
      (hartifact : operation.artifact? = some artifact)
      (hsupplied : operation.supplied c = Download.sources c preferred rs) :
      Keeps inv (Download.downloadArtifact c artifact preferred rs) fun _ => True :=
    Download.downloadArtifact_keeps hinv (hsupplied ▸ h.verdict)
      (hsupplied ▸ h.builds artifact hartifact) (hsupplied ▸ h.copies artifact hartifact)
  have hversions {ga : GroupArtifact} {preferred : Option Repository} {rs : List Repository}
      (hga : operation.groupArtifact? = some ga)
      (hsupplied : operation.supplied c = Download.sources c preferred rs) :
      Keeps inv (Download.downloadMetadata c ga preferred rs) fun _ => True :=
    Download.downloadMetadata_keeps hinv (hsupplied ▸ h.verdict) (hsupplied ▸ h.versions ga hga)
  cases operation with
  | normalize r => exact (normalize_keeps hinv (h.verdict r List.mem_cons_self) s hs).1
  | normalizeAll rs => exact (normalizeAll_keeps hinv h.verdict s hs).1
  | download coordinates relocation preferred rs => exact (hdownload rfl rfl s hs).1
  | downloadArtifact artifact preferred rs => exact (hdownload rfl rfl s hs).1
  | downloadMetadata ga preferred rs => exact (hversions rfl rfl s hs).1
  | getFile path =>
      have hkeeps : Keeps inv (Service.getFile c path) fun _ => True := by
        unfold Service.getFile
        split
        · exact Keeps.pure trivial
        · rename_i artifact hread
          have hartifact : (Operation.getFile path).artifact? = some artifact := by
            simp only [artifact?, hread, Except.toOption]
          refine Keeps.bind (hdownload hartifact rfl) fun outcome _ => ?_
          split <;> exact Keeps.pure trivial
      exact (hkeeps s hs).1
  | getMetadata ga =>
      have hkeeps : Keeps inv (Service.getMetadata c ga) fun _ => True := by
        refine Keeps.bind (hversions rfl rfl) fun outcome _ => ?_
        split <;> exact Keeps.pure trivial
      exact (hkeeps s hs).1

end Depot
