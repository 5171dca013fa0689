import Depot.Proofs.Counterparts
import Depot.Proofs.HostSafety
import Depot.Proofs.KnownMetadata

/-!
Whom a download asks. All candidates may be asked whether they are there, but files are read from
those only that accept the version, and metadata is read for floating snapshots alone. So what the
others would answer makes no difference.
-/

namespace Depot

open Http Normalization Repository Run

namespace Repository.Access

variable {settings : Settings} {a : Access} {path : String}

/-- This is sent to get the file with this path. -/
def Asks (settings : Settings) (a : Access) (path : String) (sent : Sent) : Prop :=
  ∃ base, a.place = .remote base ∧ ∃ request : Request, request.method = "GET" ∧
    request.uri = base ++ path ∧ request.prepare settings = .ok sent

/-- This is opened to get the file with this path. -/
def Opens (a : Access) (path : String) (file : Files.Path) : Prop :=
  ∃ root, a.place = .directory root ∧ file = Files.join root (Text.Utf8.encode path)

end Repository.Access

/-- Bounds on getting files of which `P` holds. -/
def Scope.getting (settings : Settings) (P : Access → String → Prop) : Scope where
  sends sent := ∃ a path, P a path ∧ a.Asks settings path sent
  opens file := ∃ a path, P a path ∧ a.Opens path file

theorem Scope.covers_getting {settings : Settings} {P : Access → String → Prop} {a : Access}
    {path : String} (h : P a path) : (Scope.getting settings P).Covers settings a path := by
  cases hplace : a.place with
  | directory root => exact (covers_directory hplace).2 ⟨a, path, h, root, hplace, rfl⟩
  | remote base =>
      refine (covers_remote hplace).2 fun request hmethod huri sent hsent => ?_
      exact ⟨a, path, h, base, hplace, request, hmethod, huri, hsent⟩

/-- Bounds on asking servers whether they are there. -/
def Scope.probing : Scope where
  sends sent := sent.method = "HEAD"
  opens _ := False

variable {c : Configuration} {artifact : Artifact} {text : String} {a : Access}

namespace Normalization

theorem coversVerdict_probing (c : Configuration) (r : Repository) :
    Scope.probing.CoversVerdict (fun _ => True) c r := by
  intro lookup
  unfold verdict
  split
  · exact fun _ => trivial
  · split
    · exact fun _ => trivial
    · split
      · split
        · exact fun _ => trivial
        · split
          · exact fun _ => trivial
          · refine (Conversation.negotiate_sends ?_).bind fun _ _ _ => trivial
            intro request hmethod _ sent hsent
            exact (Request.method_of_prepare hsent).trans hmethod
      · exact fun _ => trivial

end Normalization

-- What a verdict says and what a canonical URI is are of no interest from here on.
attribute [local irreducible] verdict canonical

namespace Download

/-- What is looked for in a repository while it is asked for an artifact: builds of a floating
snapshot, and the file itself. In local repositories other names and a companion count as well. -/
inductive Wants (artifact : Artifact) (text : String) (r : Repository) : String → Prop
  | builds {base name : String} : artifact.coordinates.version = .snapshot base →
      (name = Layout.metadataName ∨ r.isLocal ∧ name = Layout.localMetadataName) →
      Wants artifact text r (Layout.metadataPath artifact.coordinates.groupArtifact
        (some artifact.coordinates.version.directory) name)
  | copy : Wants artifact text r (Layout.path artifact text)
  | beside {path : String} : r.isLocal → Reads artifact text path → Wants artifact text r path

variable {scope : Scope} {inv : Session → Prop}

/-- Remote repositories are read from once. -/
theorem tryRepository_keeps_of_remote (hinv : scope.SparesReading inv)
    (hremote : a.repository.isLocal = false)
    (h : scope.Covers c.settings a (Layout.path artifact text)) :
    Keeps inv (tryRepository c a artifact text) fun _ => True := by
  have hfetch : Keeps inv (fetchVersion c a artifact text) fun _ => True := by
    refine Keeps.bind (Access.fetch_keeps hinv h) fun outcome _ => ?_
    rw [hremote]
    split <;> exact Keeps.pure trivial
  refine Keeps.bind hfetch fun outcome _ => ?_
  split
  · exact Keeps.pure trivial
  · exact Keeps.pure trivial
  · rename_i blob version
    have hvalidate : Keeps inv (Validation.validate c.settings a artifact version blob)
        fun _ => True := by
      unfold Validation.validate
      rw [hremote]
      split <;> exact Keeps.pure trivial
    refine Keeps.bind hvalidate fun valid _ => ?_
    split <;> exact Keeps.pure trivial

theorem tryRepository_keeps_of_wants (hinv : scope.SparesReading inv)
    (h : ∀ path, Wants artifact text a.repository path → scope.Covers c.settings a path) :
    Keeps inv (tryRepository c a artifact text) fun _ => True := by
  cases hlocal : a.repository.isLocal with
  | true => exact tryRepository_keeps hinv fun path hpath => h path (.beside hlocal hpath)
  | false => exact tryRepository_keeps_of_remote hinv hlocal (h _ .copy)

variable {preferred : Option Repository} {rs : List Repository} {s s' : Session}

theorem within_candidates (c : Configuration) (preferred : Option Repository)
    (rs : List Repository) (s : Session) :
    Session.Within Scope.probing s (candidates c preferred rs s).2 :=
  (candidates_keeps (Scope.probing.admits_within (fun _ => True) s)
    (fun r _ => coversVerdict_probing c r) s ⟨.refl _ s, fun _ _ => trivial⟩).1.1

/-- These candidates may be asked for the artifact. -/
def accepting (artifact : Artifact) (usable : List Access) : List Access :=
  usable.filter fun a => a.repository.accepts artifact.coordinates.version

theorem fileVersion_keeps_of_wants (hinv : scope.Spares inv) {usable : List Access}
    (h : ∀ a ∈ accepting artifact usable, ∀ path, Wants artifact text a.repository path →
      scope.Covers c.settings a path) :
    Keeps inv (fileVersion c artifact usable) artifact.coordinates.version.Names := by
  refine fileVersion_keeps hinv fun base hbase a ha henabled => ?_
  have haccepts : a ∈ accepting artifact usable := by
    refine List.mem_filter.2 ⟨ha, ?_⟩
    rw [hbase]
    exact henabled
  exact ⟨fun hlocal => h a haccepts _ (.builds hbase (.inr ⟨hlocal, rfl⟩)),
    h a haccepts _ (.builds hbase (.inl rfl)), nofun⟩

/-- After the candidates are found, only what the artifact is looked for under is got, and only from
candidates that accept its version. -/
theorem within_downloadArtifact (c : Configuration) (artifact : Artifact)
    (preferred : Option Repository) (rs : List Repository) (s : Session) :
    let found := candidates c preferred rs s
    let text := (fileVersion c artifact found.1.usable found.2).1
    Session.Within (Scope.getting c.settings fun a path =>
        a ∈ accepting artifact found.1.usable ∧ Wants artifact text a.repository path)
      found.2 (downloadArtifact c artifact preferred rs s).2 := by
  intro found text
  let scope := Scope.getting c.settings fun a path =>
    a ∈ accepting artifact found.1.usable ∧ Wants artifact text a.repository path
  have hinv := scope.spares_within found.2
  have hcovers : ∀ a ∈ accepting artifact found.1.usable, ∀ path,
      Wants artifact text a.repository path → scope.Covers c.settings a path :=
    fun a ha path hpath => Scope.covers_getting ⟨ha, hpath⟩
  have hnamed := (fileVersion_keeps_of_wants hinv hcovers found.2 (.refl _ _)).1
  have htried : Keeps (Session.Within scope found.2) (tryAll c artifact text found.1.usable)
      fun _ => True :=
    tryAll_keeps_of fun a ha haccepts => tryRepository_keeps_of_wants hinv.toSparesReading
      (hcovers a (List.mem_filter.2 ⟨ha, haccepts⟩))
  rw [downloadArtifact_apply rfl rfl]
  exact (htried _ hnamed).1

/-- If only admitted URIs were ever found usable, no directory is looked for on a server. -/
theorem isLocal_of_remote (hs : s.Trusts fun key => c.Admits key.uri)
    (ha : a ∈ (candidates c preferred rs s).1.usable) {base : String}
    (hplace : a.place = .remote base) : a.repository.isLocal = false := by
  have hkeeps := candidates_keeps
    ((c.networkScope (sources c preferred rs)).admits_within (fun key => c.Admits key.uri) s)
    (fun r hr => coversVerdict_networkScope hr) s ⟨.refl _ s, hs⟩
  obtain ⟨r, -, rfl, hpermits | ⟨u, root, -, -, hlocal⟩⟩ := hkeeps.2 a ha
  · obtain ⟨u, hu, hscheme, -⟩ := hpermits
    rw [repository_access]
    refine Bool.eq_false_iff.2 fun hlocal => ?_
    have hfile := scheme_of_isLocal hlocal hu
    rcases hscheme with h | h <;> simp [h] at hfile
  · rw [place_access (hlocal r.canonical rfl)] at hplace
    cases hplace

theorem fileVersion_of_fixed (h : ∀ base, artifact.coordinates.version ≠ .snapshot base)
    (usable : List Access) (s : Session) :
    fileVersion c artifact usable s = (artifact.coordinates.version.text, s) := by
  unfold fileVersion
  cases hversion : artifact.coordinates.version with
  | snapshot base => exact absurd hversion (h base)
  | release text => rfl
  | build base timestamp number => rfl

theorem metadata_downloadArtifact_of_fixed
    (h : ∀ base, artifact.coordinates.version ≠ .snapshot base) :
    (downloadArtifact c artifact preferred rs s).2.metadata = s.metadata := by
  refine (Session.metadata_eq_of_bare_eq (s := (candidates c preferred rs s).2) ?_).trans ?_
  · rw [downloadArtifact_apply rfl (fileVersion_of_fixed h _ _)]
    exact (tryAll_keeps (Scope.reading.sparesReading_bare _)
      (fun a _ _ path _ => Scope.covers_reading c.settings a path) _ rfl).1
  · rw [candidates, candidates_session, metadata_mapM_normalize]

end Download

/-- If this gets a file at all, then from somebody on the list. -/
def Http.Sent.Concerns (settings : Settings) (as : List Access) (sent : Sent) : Prop :=
  sent.method = "GET" → ∃ a ∈ as, ∃ path, a.Asks settings path sent

/-- Sessions that can be told apart at most by files that nobody on the list has, in directories or
on servers. -/
structure Session.AgreesOn (settings : Settings) (as : List Access) (s s' : Session) : Prop where
  contacts : s.contacts = s'.contacts
  clock : s.clock = s'.clock
  opened : s.opened = s'.opened
  environment : s.environment = s'.environment
  normalized : s.normalized = s'.normalized
  metadata : s.metadata = s'.metadata
  connect : s.network.connect = s'.network.connect
  answer : ∀ before sent, sent.Concerns settings as →
    s.network.answer before sent = s'.network.answer before sent
  files : ∀ a ∈ as, ∀ path file, a.Opens path file → s.files.read file = s'.files.read file

namespace Session.AgreesOn

variable {settings : Settings} {as : List Access} {s s' : Session}

theorem lookup (h : s.AgreesOn settings as s') : s.lookup = s'.lookup := by
  funext name
  rw [Session.lookup, Session.lookup, h.environment]

theorem touch (h : s.AgreesOn settings as s') (contact : Contact) :
    (s.touch contact).AgreesOn settings as (s'.touch contact) where
  __ := h
  contacts := by rw [Session.touch, Session.touch, h.contacts]

theorem pairs : Session.Pairs (AgreesOn settings as)
    fun sent sent' => sent = sent' ∧ sent.Concerns settings as where
  contact := by
    rintro s s' sent _ limits h ⟨rfl, hsent⟩
    have hattempt : s.network.attempt s.contacts sent limits =
        s'.network.attempt s'.contacts sent limits := by
      rw [Network.attempt, Network.attempt, ← h.connect, ← h.contacts, ← h.answer _ _ hsent]
    rw [Session.contact, Session.contact, ← hattempt]
    exact ⟨rfl, h.touch _⟩
  clock h := h.clock
  setClock time h := { h with clock := rfl }

theorem sharesCaches : Session.SharesCaches (AgreesOn settings as) where
  normalized h := h.normalized
  metadata h := h.metadata
  setNormalized _ h := { h with normalized := rfl }
  setMetadata _ h := { h with metadata := rfl }

theorem fetchAlike (ha : a ∈ as) : a.FetchAlike (AgreesOn settings as) settings a := by
  refine .of_place rfl (fun root path hplace s s' h => ?_) fun base path hplace s s' h => ?_
  · refine ⟨{ h with opened := by rw [readFile, readFile, h.opened] }, ?_⟩
    exact h.files a ha path _ ⟨root, hplace, rfl⟩
  · have hsends : (Conversation.negotiate settings s.lookup (.get (base ++ path))
        a.repository.credentials).Sends (Sent.Concerns settings as) fun _ => True :=
      Conversation.negotiate_sends fun request hmethod huri sent hsent _ =>
        ⟨a, ha, path, base, hplace, request, hmethod, huri, hsent⟩
    rw [← h.lookup]
    exact hold_matches pairs (Conversation.Matches.of_sends hsends)

end Session.AgreesOn

namespace Download

variable {preferred : Option Repository} {rs : List Repository} {s s' : Session}

/-- If no builds have to be known, nothing but the file under the text of its version is got from
remote repositories. -/
theorem within_of_fixed (h : ∀ base, artifact.coordinates.version ≠ .snapshot base) :
    let found := candidates c preferred rs s
    Session.Within (Scope.getting c.settings fun a path =>
        a ∈ accepting artifact found.1.usable ∧
          Reads artifact artifact.coordinates.version.text path ∧
          (a.repository.isLocal = false →
            path = Layout.path artifact artifact.coordinates.version.text))
      found.2 (downloadArtifact c artifact preferred rs s).2 := by
  intro found
  have hwithin := within_downloadArtifact c artifact preferred rs s
  dsimp only at hwithin
  rw [fileVersion_of_fixed h] at hwithin
  have hfixed {a : Access} {path : String}
      (hwants : Wants artifact artifact.coordinates.version.text a.repository path) :
      Reads artifact artifact.coordinates.version.text path ∧ (a.repository.isLocal = false →
        path = Layout.path artifact artifact.coordinates.version.text) := by
    cases hwants with
    | builds hbase _ => exact absurd hbase (h _)
    | copy => exact ⟨.copy (self_mem_fileVersions artifact _), fun _ => rfl⟩
    | beside hlocal hpath =>
        exact ⟨hpath, fun hremote => absurd hlocal (Bool.eq_false_iff.1 hremote)⟩
  refine hwithin.mono ?_ ?_
  · rintro sent ⟨a, path, ⟨ha, hwants⟩, hasks⟩
    exact ⟨a, path, ⟨ha, hfixed hwants⟩, hasks⟩
  · rintro file ⟨a, path, ⟨ha, hwants⟩, hopens⟩
    exact ⟨a, path, ⟨ha, hfixed hwants⟩, hopens⟩

/-- The candidates may all be asked whether they are there. After that, files are got from those
only that accept the artifact's version; if it is no floating snapshot, no metadata is among them,
and remote repositories are asked for nothing but the file under the text of its version. If only
admitted URIs were ever found usable, whatever is on a server counts as remote. So if others would
answer differently, or had other files, the download would end the same way. -/
theorem downloadArtifact_asks_accepting (c : Configuration) (artifact : Artifact)
    (preferred : Option Repository) (rs : List Repository) (s : Session) :
    let version := artifact.coordinates.version
    let found := candidates c preferred rs s
    let text := (fileVersion c artifact found.1.usable found.2).1
    let asked := accepting artifact found.1.usable
    let result := downloadArtifact c artifact preferred rs s
    Session.Within Scope.probing s found.2 ∧
    Session.Within (Scope.getting c.settings fun a path =>
      a ∈ asked ∧ Wants artifact text a.repository path) found.2 result.2 ∧
    ((∀ base, version ≠ .snapshot base) → result.2.metadata = s.metadata ∧
      Session.Within (Scope.getting c.settings fun a path =>
        a ∈ asked ∧ Reads artifact version.text path ∧
          (a.repository.isLocal = false → path = Layout.path artifact version.text))
        found.2 result.2) ∧
    (s.Trusts (fun key => c.Admits key.uri) →
      ∀ a ∈ asked, ∀ base, a.place = .remote base → a.repository.isLocal = false) ∧
    ∀ s', s.AgreesOn c.settings asked s' →
      (downloadArtifact c artifact preferred rs s').1 = result.1 := by
  intro version found text asked result
  refine ⟨within_candidates c preferred rs s, within_downloadArtifact c artifact preferred rs s,
    fun h => ⟨metadata_downloadArtifact_of_fixed h, within_of_fixed h⟩,
    fun hs a ha base => isLocal_of_remote hs (List.mem_filter.1 ha).1, fun s' hs => ?_⟩
  -- Verdicts are reached by asking whether servers are there, of which all answers agree.
  have hverdict (r : Repository) : VerdictAlike (Session.AgreesOn c.settings asked)
      (fun sent sent' => sent = sent' ∧ sent.Concerns c.settings asked) c c r r := by
    intro s s' hs
    rw [← hs.lookup]
    refine Conversation.Matches.of_sends ((coversVerdict_probing c r s.lookup).mono ?_)
    rintro sent hhead hget
    rw [hhead] at hget
    exact absurd hget (by decide)
  refine (eq_of_errorOr_twins (downloadArtifact_match Session.AgreesOn.pairs
    Session.AgreesOn.sharesCaches rfl isTwinning_eq
    (List.forall₂_same.2 fun r _ => ⟨rfl, hverdict r⟩) hs ?_).2).symm
  intro a ha a' htwins haccepts
  obtain rfl := htwins.eq
  exact Session.AgreesOn.fetchAlike (List.mem_filter.2 ⟨ha, haccepts⟩)

end Download

end Depot
