import Depot.Proofs.Counterparts
import Depot.Proofs.HeaderText
import Depot.Proofs.TablesAlike
import Depot.Proofs.VerdictCache

/-!
Passwords stay with the servers that they are sent to. Two runs that differ in passwords alone do
the same and answer the same, if servers do not tell one password from another.
-/

namespace Depot

open Http Normalization Repository Run

section Secrets

/-- The header without the proof of somebody's identity. -/
def Http.Header.withoutSecret (h : Header) : Header :=
  if h.name = "authorization" then { h with value := [] } else h

def Http.Sent.withoutSecret (sent : Sent) : Sent :=
  { sent with headers := sent.headers.map Header.withoutSecret }

def Contact.withoutSecret : Contact → Contact
  | request sent => .request sent.withoutSecret
  | noConnection server connection => .noConnection server connection

/-- Servers may look at whether somebody proves an identity, but not at which one it is. -/
structure Network.IsBlind (n : Network) : Prop where
  connect : ∀ before before' server,
    before.map Contact.withoutSecret = before'.map Contact.withoutSecret →
      n.connect before server = n.connect before' server
  answer : ∀ before before' sent sent',
    before.map Contact.withoutSecret = before'.map Contact.withoutSecret →
      sent.withoutSecret = sent'.withoutSecret → n.answer before sent = n.answer before' sent'

/-- What there is of a session that is no secret. -/
def Session.withoutSecrets (s : Session) : Session :=
  { s with contacts := s.contacts.map Contact.withoutSecret, environment := [] }

end Secrets

/-- Requests that differ in the values of identities alone. -/
def Http.Sent.SameButSecret (sent sent' : Sent) : Prop := sent.withoutSecret = sent'.withoutSecret

/-- Attempts that differ in secrets alone take the same time, have the same outcome and leave what
looks the same. -/
theorem Network.IsBlind.attempt {n : Network} (h : n.IsBlind) {before before' : List Contact}
    (hbefore : before.map Contact.withoutSecret = before'.map Contact.withoutSecret)
    {sent sent' : Sent} (hsent : sent.SameButSecret sent') (limits : Limits) :
    (n.attempt before sent limits).1 = (n.attempt before' sent' limits).1 ∧
      (n.attempt before sent limits).2.withoutSecret =
        (n.attempt before' sent' limits).2.withoutSecret := by
  have hserver := congr_of_mask hsent Sent.server fun _ => rfl
  have hmethod := congr_of_mask hsent Sent.method fun _ => rfl
  rw [Network.attempt, Network.attempt, ← h.connect _ _ _ hbefore,
    ← h.answer _ _ _ _ hbefore hsent, ← hserver, ← hmethod]
  dsimp only
  split
  · exact ⟨rfl, rfl⟩
  · split
    · exact ⟨rfl, congrArg Contact.request hsent⟩
    all_goals exact ⟨rfl, rfl⟩

/-- Sessions that differ in secrets alone, with what names refer to in each of them. -/
structure Session.Parallel (lookup lookup' : String → Option String) (s s' : Session) : Prop where
  same : s.withoutSecrets = s'.withoutSecrets
  lookup : s.lookup = lookup
  lookup' : s'.lookup = lookup'
  blind : s.network.IsBlind

variable {lookup lookup' : String → Option String} {settings : Settings}

namespace Session

theorem withoutSecrets_touch (s : Session) (contact : Contact) :
    (s.touch contact).withoutSecrets = s.withoutSecrets.touch contact.withoutSecret := by
  rw [touch, touch, withoutSecrets, withoutSecrets, List.map_append]
  rfl

namespace Parallel

variable {s s' : Session}

theorem touch (h : s.Parallel lookup lookup' s') {contact contact' : Contact}
    (hcontact : contact.withoutSecret = contact'.withoutSecret) :
    (s.touch contact).Parallel lookup lookup' (s'.touch contact') where
  __ := h
  same := by rw [withoutSecrets_touch, withoutSecrets_touch, h.same, hcontact]

theorem pairs : Session.Pairs (Parallel lookup lookup') Sent.SameButSecret where
  contact := by
    intro s s' sent sent' limits h hsent
    have hnetwork := congr_of_mask h.same Session.network fun _ => rfl
    -- Servers answer by what came before, and that looks the same on both sides.
    have hcontacts : s.contacts.map Contact.withoutSecret =
        s'.contacts.map Contact.withoutSecret := by
      have hsame := congrArg Session.contacts h.same
      exact hsame
    obtain ⟨hmet, hleft⟩ := h.blind.attempt hcontacts hsent limits
    rw [contact, contact, ← hnetwork]
    exact ⟨hmet, h.touch hleft⟩
  clock h := congr_of_mask h.same Session.clock fun _ => rfl
  setClock time h := { h with same := congrArg (fun s => { s with clock := time }) h.same }

theorem sharesCaches : Session.SharesCaches (Parallel lookup lookup') where
  normalized h := congr_of_mask h.same Session.normalized fun _ => rfl
  metadata h := congr_of_mask h.same Session.metadata fun _ => rfl
  setNormalized cache h :=
    { h with same := congrArg (fun s => { s with normalized := cache }) h.same }
  setMetadata cache h :=
    { h with same := congrArg (fun s => { s with metadata := cache }) h.same }

theorem looked (h : s.Parallel lookup lookup' s') (path : Files.Path) :
    ({ s with opened := s.opened ++ [path] } : Session).Parallel lookup lookup'
      { s' with opened := s'.opened ++ [path] } where
  __ := h
  same := congrArg (fun s => { s with opened := s.opened ++ [path] }) h.same

end Parallel

theorem readFile_matches (path : Files.Path) :
    Matches (Parallel lookup lookup') (readFile path) (readFile path) Eq := by
  intro s s' h
  have hfiles := congr_of_mask h.same Session.files fun _ => rfl
  exact ⟨h.looked path, congrArg (Files.read · path) hfiles⟩

theorem listDirectories_matches (path : Files.Path) :
    Matches (Parallel lookup lookup') (listDirectories path) (listDirectories path) Eq := by
  intro s s' h
  have hfiles := congr_of_mask h.same Session.files fun _ => rfl
  exact ⟨h.looked path, congrArg (Files.directories · path) hfiles⟩

end Session

section Negotiation

theorem Credentials.withoutSecret_authorization (c : Credentials) :
    c.authorization.withoutSecret = ⟨"authorization", []⟩ :=
  if_pos rfl

theorem Http.Headers.withoutSecret_set (hs : Headers) (c c' : Credentials) :
    (hs.set c.authorization).map Header.withoutSecret =
      (hs.set c'.authorization).map Header.withoutSecret := by
  have hnames : c.authorization.name = c'.authorization.name := rfl
  rw [Headers.set, Headers.set, hnames, List.map_append, List.map_append, List.map_singleton,
    List.map_singleton, Credentials.withoutSecret_authorization,
    Credentials.withoutSecret_authorization]

-- Nothing else needs to be known of how an identity is proved.
attribute [local irreducible] Credentials.authorization

/-- What makes a request invalid is no secret. -/
theorem Http.Request.matches_of_headers {request request' : Request}
    (hmethod : request.method = request'.method) (huri : request.uri = request'.uri)
    (hheaders : request.headers.map Header.withoutSecret =
      request'.headers.map Header.withoutSecret) :
    request.Matches Sent.SameButSecret settings request' := by
  cases htarget : Target.parse request.uri with
  | error e =>
      have hprepared (r : Request) (hr : Target.parse r.uri = .error e) :
          r.prepare settings = .error e := by simp only [prepare, hr]
      exact .invalid (hprepared request htarget) (hprepared request' (huri ▸ htarget))
  | ok t =>
      cases hagent : Header.isValue (Text.Utf8.encode settings.userAgent) with
      | false =>
          have hprepared (r : Request) (hr : Target.parse r.uri = .ok t) :
              r.prepare settings = .error .headerValue := by
            simp only [prepare, hr, hagent, Bool.false_eq_true, if_false]
          exact .invalid (hprepared request htarget) (hprepared request' (huri ▸ htarget))
      | true =>
          have hprepared (r : Request) (hr : Target.parse r.uri = .ok t) : r.prepare settings =
              .ok ⟨r.method, t.scheme, t.server, t.requestPath,
                ⟨"user-agent", Text.Utf8.encode settings.userAgent⟩ :: r.headers⟩ := by
            simp only [prepare, hr, hagent, if_true]
          refine .valid (hprepared request htarget) (hprepared request' (huri ▸ htarget)) ?_
          simp only [Sent.SameButSecret, Sent.withoutSecret, List.map_cons, hmethod, hheaders]

theorem Http.Conversation.send_matches (settings : Settings) (request : Request) :
    (send settings request).Matches Sent.SameButSecret Eq (send settings request) :=
  .send rfl (Request.matches_of_headers rfl rfl rfl)

/-- Whose credentials are sent does not matter, if any are. -/
theorem Http.Conversation.negotiate_matches (settings : Settings) (request : Request)
    {credentials credentials' : Option Credentials}
    (h : (credentials.bind (Credentials.resolve? lookup)).isSome =
      (credentials'.bind (Credentials.resolve? lookup')).isSome) :
    (negotiate settings lookup request credentials).Matches Sent.SameButSecret Eq
      (negotiate settings lookup' request credentials') := by
  cases hc : credentials.bind (Credentials.resolve? lookup) with
  | none =>
      rw [hc] at h
      have hc' : credentials'.bind (Credentials.resolve? lookup') = none :=
        Option.not_isSome_iff_eq_none.1 (by simp [← h])
      rw [negotiate, negotiate, hc, hc']
      exact send_matches settings request
  | some c =>
      rw [hc] at h
      obtain ⟨c', hc'⟩ := Option.isSome_iff_exists.1 h.symm
      rw [negotiate_of_resolved hc, negotiate_of_resolved hc']
      have hauthorized : (send settings (request.withHeader c.authorization)).Matches
          Sent.SameButSecret Eq (send settings (request.withHeader c'.authorization)) :=
        .send rfl (Request.matches_of_headers rfl rfl (Headers.withoutSecret_set _ c c'))
      refine hauthorized.bind ?_
      rintro outcome _ rfl
      unfold askAgain
      split
      · split
        · exact send_matches settings request
        · exact .done rfl
      · exact .done rfl

end Negotiation

namespace Repository

/-- Whether requests for the repository prove somebody's identity. -/
def isAuthorized (lookup : String → Option String) (r : Repository) : Bool :=
  (r.credentials.bind (Credentials.resolve? lookup)).isSome

/-- Descriptions that differ in their passwords at most, which can be resolved on both sides or on
none. -/
structure DifferInPassword (lookup lookup' : String → Option String) (r r' : Repository) : Prop
    where
  withoutPassword : r.withoutPassword = r'.withoutPassword
  isAuthorized : r.isAuthorized lookup = r'.isAuthorized lookup'

theorem withoutPassword_canonical (r : Repository) :
    r.canonical.withoutPassword = r.withoutPassword.canonical := by
  have huri : r.withoutPassword.canonicalUri = r.canonicalUri := canonicalUri_congr rfl
  rw [canonical, canonical, huri, withoutPassword, withoutPassword]

theorem isAuthorized_canonical (r : Repository) :
    r.canonical.isAuthorized lookup = r.isAuthorized lookup := by
  rw [Repository.isAuthorized, credentials_canonical, Repository.isAuthorized]

theorem isTwinning_differInPassword : IsTwinning (DifferInPassword lookup lookup') where
  withoutPassword h := h.withoutPassword
  canonical {r r'} h := by
    refine ⟨?_, ?_⟩
    · rw [withoutPassword_canonical, withoutPassword_canonical, h.withoutPassword]
    · rw [isAuthorized_canonical, isAuthorized_canonical, h.isAuthorized]

variable {a a' : Access}

theorem fetchAlike (h : a.Twins (DifferInPassword lookup lookup') a') :
    a.FetchAlike (Session.Parallel lookup lookup') settings a' := by
  refine .of_place h.place (fun _ _ _ => Session.readFile_matches _) fun base path _ s s' hs => ?_
  rw [hs.lookup, hs.lookup']
  exact Session.hold_matches Session.Parallel.pairs
    (Conversation.negotiate_matches settings _ h.repository.isAuthorized)

theorem listAlike (h : a.Twins (DifferInPassword lookup lookup') a') :
    a.ListAlike (Session.Parallel lookup lookup') settings a' :=
  .of_place h.place (fun _ _ _ => Session.listDirectories_matches _) (fetchAlike h)

end Repository

section Operations

variable {V : Repository → Repository → Prop} {c c' : Configuration}

def Configuration.withoutRepositories (c : Configuration) : Configuration :=
  { c with localRepository := none, repositories := [] }

/-- Configurations that differ in their repositories alone, of which `V` holds. -/
structure Configuration.Twins (V : Repository → Repository → Prop) (c c' : Configuration) : Prop
    where
  withoutRepositories : c.withoutRepositories = c'.withoutRepositories
  localRepository : Option.Rel V c.localRepository c'.localRepository
  repositories : List.Forall₂ V c.repositories c'.repositories

/-- The same is asked for, with descriptions of repositories of which `V` holds. -/
inductive Operation.Twins (V : Repository → Repository → Prop) : Operation → Operation → Prop
  | normalize {r r' : Repository} : V r r' → Twins V (.normalize r) (.normalize r')
  | normalizeAll {rs rs' : List Repository} : List.Forall₂ V rs rs' →
      Twins V (.normalizeAll rs) (.normalizeAll rs')
  | download (coordinates : Coordinates) (relocation : Option Relocation)
      {preferred preferred' : Option Repository} {rs rs' : List Repository} :
      Option.Rel V preferred preferred' → List.Forall₂ V rs rs' →
      Twins V (.download coordinates relocation preferred rs)
        (.download coordinates relocation preferred' rs')
  | downloadArtifact (artifact : Artifact) {preferred preferred' : Option Repository}
      {rs rs' : List Repository} : Option.Rel V preferred preferred' → List.Forall₂ V rs rs' →
      Twins V (.downloadArtifact artifact preferred rs) (.downloadArtifact artifact preferred' rs')
  | downloadMetadata (ga : GroupArtifact) {preferred preferred' : Option Repository}
      {rs rs' : List Repository} : Option.Rel V preferred preferred' → List.Forall₂ V rs rs' →
      Twins V (.downloadMetadata ga preferred rs) (.downloadMetadata ga preferred' rs')
  | getFile (path : String) : Twins V (.getFile path) (.getFile path)
  | getMetadata (ga : GroupArtifact) : Twins V (.getMetadata ga) (.getMetadata ga)

/-- The reply with no password in the descriptions of repositories that come with it. -/
def Operation.Reply.withoutPasswords : Reply → Reply
  | repository found => .repository (found.map Repository.withoutPassword)
  | repositories found => .repositories (found.map (Option.map Repository.withoutPassword))
  | file (.ok resolved) => .file (.ok { resolved with
      repository := resolved.repository.withoutPassword })
  | reply => reply

variable {preferred preferred' : Option Repository} {rs rs' : List Repository}

theorem Download.forall₂_sources (hc : c.Twins V c')
    (hpreferred : Option.Rel V preferred preferred') (hrs : List.Forall₂ V rs rs') :
    List.Forall₂ V (sources c preferred rs) (sources c' preferred' rs') := by
  have htoList {o o' : Option Repository} (h : Option.Rel V o o') :
      List.Forall₂ V o.toList o'.toList := by
    cases h with
    | none => exact .nil
    | some h => exact .cons h .nil
  exact List.rel_append (List.rel_append (htoList hc.localRepository) (htoList hpreferred)) hrs

theorem Configuration.Twins.settings_eq (hc : c.Twins V c') : c.settings = c'.settings :=
  congr_of_mask hc.withoutRepositories Configuration.settings fun _ => rfl

theorem Configuration.Twins.hostPolicy_eq (hc : c.Twins V c') : c.hostPolicy = c'.hostPolicy :=
  congr_of_mask hc.withoutRepositories Configuration.hostPolicy fun _ => rfl

variable {r r' : Repository}

theorem Normalization.verdictAlike (hc : c.Twins (DifferInPassword lookup lookup') c')
    (h : DifferInPassword lookup lookup' r r') :
    VerdictAlike (Session.Parallel lookup lookup') Sent.SameButSecret c c' r r' := by
  intro s s' hs
  have hcanonical := isTwinning_differInPassword.canonical h
  rw [hs.lookup, hs.lookup']
  exact verdict_matches hc.settings_eq hc.hostPolicy_eq isTwinning_differInPassword hcanonical
    (Conversation.negotiate_matches c.settings _ hcanonical.isAuthorized)

theorem Normalization.forall₂_verdictAlike (hc : c.Twins (DifferInPassword lookup lookup') c')
    (h : List.Forall₂ (DifferInPassword lookup lookup') rs rs') :
    List.Forall₂ (fun r r' => DifferInPassword lookup lookup' r r' ∧
      VerdictAlike (Session.Parallel lookup lookup') Sent.SameButSecret c c' r r') rs rs' :=
  h.imp fun _ _ hr => ⟨hr, verdictAlike hc hr⟩

theorem Download.downloadArtifact_matches (hc : c.Twins (DifferInPassword lookup lookup') c')
    (artifact : Artifact) (hpreferred : Option.Rel (DifferInPassword lookup lookup') preferred
      preferred') (hrs : List.Forall₂ (DifferInPassword lookup lookup') rs rs') :
    Matches (Session.Parallel lookup lookup') (downloadArtifact c artifact preferred rs)
      (downloadArtifact c' artifact preferred' rs')
      (ErrorOr (Resolved.Twins (DifferInPassword lookup lookup'))) := by
  intro s s' hs
  refine downloadArtifact_match Session.Parallel.pairs Session.Parallel.sharesCaches hc.settings_eq
    isTwinning_differInPassword
    (Normalization.forall₂_verdictAlike hc (forall₂_sources hc hpreferred hrs)) hs ?_
  exact fun _ _ _ htwins _ => fetchAlike htwins

theorem Download.downloadMetadata_matches (hc : c.Twins (DifferInPassword lookup lookup') c')
    (ga : GroupArtifact) (hpreferred : Option.Rel (DifferInPassword lookup lookup') preferred
      preferred') (hrs : List.Forall₂ (DifferInPassword lookup lookup') rs rs') :
    Matches (Session.Parallel lookup lookup') (downloadMetadata c ga preferred rs)
      (downloadMetadata c' ga preferred' rs') Eq := by
  refine (candidates_matches Session.Parallel.pairs Session.Parallel.sharesCaches
    isTwinning_differInPassword
    (Normalization.forall₂_verdictAlike hc (forall₂_sources hc hpreferred hrs))).bind
      fun found found' hfound => ?_
  have hV : IsTwinning (DifferInPassword lookup lookup') := isTwinning_differInPassword
  rw [← hc.settings_eq]
  refine Resolution.resolveMerged_matches Session.Parallel.sharesCaches hV ?_
  exact hfound.usable.imp fun a a' ha => ⟨ha, fetchAlike ha, fun _ => listAlike ha⟩

theorem Service.getFile_matches (hc : c.Twins (DifferInPassword lookup lookup') c')
    (path : String) : Matches (Session.Parallel lookup lookup') (getFile c path) (getFile c' path)
      Eq := by
  unfold getFile
  split
  · exact Matches.pure rfl
  · refine (Download.downloadArtifact_matches hc _ .none hc.repositories).bind
      fun outcome outcome' h => ?_
    cases h with
    | error failure => exact Matches.pure rfl
    | @ok resolved resolved' h =>
        have hid := isTwinning_differInPassword.congr h.repository Repository.id fun _ => rfl
        dsimp only
        rw [file, file, hid, h.content]
        exact Matches.pure rfl

theorem Service.getMetadata_matches (hc : c.Twins (DifferInPassword lookup lookup') c')
    (ga : GroupArtifact) : Matches (Session.Parallel lookup lookup') (getMetadata c ga)
      (getMetadata c' ga) Eq := by
  refine (Download.downloadMetadata_matches hc ga .none hc.repositories).bind_eq fun found => ?_
  split <;> exact Matches.pure rfl

theorem Repository.map_withoutPassword {x x' : Option Repository}
    (h : Option.Rel (DifferInPassword lookup lookup') x x') :
    x.map withoutPassword = x'.map withoutPassword := by
  cases h with
  | none => rfl
  | some h => exact congrArg some h.withoutPassword

theorem Operation.Reply.withoutPasswords_file {x x' : Except Download.Failure Download.Resolved}
    (h : ErrorOr (Download.Resolved.Twins (DifferInPassword lookup lookup')) x x') :
    (file x).withoutPasswords = (file x').withoutPasswords := by
  cases h with
  | error failure => rfl
  | @ok resolved resolved' h =>
      obtain ⟨hcoordinates, hrepository, hcontent, hfileName⟩ := h
      rw [withoutPasswords, withoutPasswords, hcoordinates, hrepository.withoutPassword, hcontent,
        hfileName]

theorem Operation.perform_matches (hc : c.Twins (DifferInPassword lookup lookup') c')
    {operation operation' : Operation}
    (h : operation.Twins (DifferInPassword lookup lookup') operation') :
    Matches (Session.Parallel lookup lookup') (operation.perform c) (operation'.perform c')
      fun reply reply' => reply.withoutPasswords = reply'.withoutPasswords := by
  cases h with
  | normalize h =>
      refine (normalize_matches Session.Parallel.pairs Session.Parallel.sharesCaches
        isTwinning_differInPassword h (verdictAlike hc h)).bind fun x x' hx => Matches.pure ?_
      exact congrArg Reply.repository (map_withoutPassword hx)
  | normalizeAll h =>
      refine (normalizeAll_matches Session.Parallel.pairs Session.Parallel.sharesCaches
        isTwinning_differInPassword hc.settings_eq (forall₂_verdictAlike hc h)).bind
          fun x x' hx => Matches.pure (congrArg Reply.repositories ?_)
      exact map_eq_of_forall₂ hx fun _ _ => map_withoutPassword
  | download coordinates relocation hpreferred hrs =>
      exact (Download.downloadArtifact_matches hc _ hpreferred hrs).bind fun x x' hx =>
        Matches.pure (Reply.withoutPasswords_file hx)
  | downloadArtifact artifact hpreferred hrs =>
      exact (Download.downloadArtifact_matches hc artifact hpreferred hrs).bind fun x x' hx =>
        Matches.pure (Reply.withoutPasswords_file hx)
  | downloadMetadata ga hpreferred hrs =>
      exact (Download.downloadMetadata_matches hc ga hpreferred hrs).bind_eq fun _ =>
        Matches.pure rfl
  | getFile path => exact (Service.getFile_matches hc path).bind_eq fun _ => Matches.pure rfl
  | getMetadata ga => exact (Service.getMetadata_matches hc ga).bind_eq fun _ => Matches.pure rfl

/-- Two runs that differ in passwords alone, in the descriptions of repositories or in what they
refer to, answer the same and leave the same caches, and what they send differs in nothing but the
proofs of identities. The passwords of each description have to be known in both runs or in none,
and servers must not tell one from another. -/
theorem perform_eq_without_passwords (c c' : Configuration)
    (operations operations' : List Operation) (w w' : World) (hnetwork : w.network = w'.network)
    (hfiles : w.files = w'.files) (hblind : w.network.IsBlind)
    (hc : c.Twins (DifferInPassword w.lookup w'.lookup) c')
    (h : List.Forall₂ (Operation.Twins (DifferInPassword w.lookup w'.lookup))
      operations operations') :
    let run := operations.mapM (Operation.perform c) w.start
    let run' := operations'.mapM (Operation.perform c') w'.start
    run.1.map Operation.Reply.withoutPasswords = run'.1.map Operation.Reply.withoutPasswords ∧
    run.2.normalized = run'.2.normalized ∧ run.2.metadata = run'.2.metadata ∧
    run.2.contacts.map Contact.withoutSecret = run'.2.contacts.map Contact.withoutSecret ∧
    run.2.opened = run'.2.opened ∧ run.2.clock = run'.2.clock := by
  intro run run'
  have hstart : Session.Parallel w.lookup w'.lookup w.start w'.start := by
    refine ⟨?_, rfl, rfl, hblind⟩
    rw [World.start, World.start, hnetwork, hfiles]
    rfl
  obtain ⟨hend, hreplies⟩ := Matches.mapM h (fun _ _ => Operation.perform_matches hc) _ _ hstart
  have hcontacts := congrArg Session.contacts hend.same
  exact ⟨map_eq_of_forall₂ hreplies fun _ _ => id,
    congr_of_mask hend.same Session.normalized fun _ => rfl,
    congr_of_mask hend.same Session.metadata fun _ => rfl, hcontacts,
    congr_of_mask hend.same Session.opened fun _ => rfl,
    congr_of_mask hend.same Session.clock fun _ => rfl⟩

/-- Servers that let everybody in who proves an identity. -/
def Network.guarded : Network where
  connect _ _ := .works
  answer _ sent :=
    if sent.headers.any (·.name == "authorization") then { body := [120] } else { status := 401 }

theorem Network.isBlind_guarded : Network.guarded.IsBlind where
  connect _ _ _ _ := rfl
  answer _ _ sent sent' _ hsent := by
    have hname (h : Header) : h.withoutSecret.name = h.name := by
      unfold Header.withoutSecret
      split <;> rfl
    have hany := congr_of_mask hsent (fun sent => sent.headers.any (·.name == "authorization"))
      fun sent => by simp only [Sent.withoutSecret, List.any_map, Function.comp_def, hname]
    dsimp only [guarded]
    rw [hany]

-- In what follows runs are compared as they stand, without being carried out.
attribute [local irreducible] Operation.perform

/-- A password that is found in the environment, and another one that is not. -/
theorem perform_eq_of_other_password :
    let w : World := { network := .guarded, environment := [("TOKEN", "x")] }
    let w' : World := { network := .guarded }
    let r (password : String) : Repository :=
      { id := "a", uri := "http://a.b", username := some "u", password := some password }
    let operation (password : String) : Operation :=
      .downloadArtifact ⟨⟨"g", "a", .release "1"⟩, none, "jar"⟩ none [r password]
    let run := [operation "$\x7benv.TOKEN\x7d"].mapM (Operation.perform {}) w.start
    let run' := [operation "y"].mapM (Operation.perform {}) w'.start
    w.network.IsBlind ∧
      run.1.map Operation.Reply.withoutPasswords = run'.1.map Operation.Reply.withoutPasswords ∧
      run.2.contacts.map Contact.withoutSecret = run'.2.contacts.map Contact.withoutSecret ∧
      run.2.contacts ≠ run'.2.contacts := by
  intro w w' r operation run run'
  have hc : ({} : Configuration).Twins (DifferInPassword w.lookup w'.lookup) {} :=
    ⟨rfl, .none, .cons ⟨rfl, rfl⟩ .nil⟩
  have hr : DifferInPassword w.lookup w'.lookup (r "$\x7benv.TOKEN\x7d") (r "y") :=
    ⟨rfl, by decide +kernel⟩
  have hoperation : (operation "$\x7benv.TOKEN\x7d").Twins
      (DifferInPassword w.lookup w'.lookup) (operation "y") :=
    .downloadArtifact _ .none (.cons hr .nil)
  have hsame := perform_eq_without_passwords {} {} _ _ w w' rfl rfl Network.isBlind_guarded hc
    (.cons hoperation .nil)
  exact ⟨Network.isBlind_guarded, hsame.1, hsame.2.2.2.1, by decide +kernel⟩

end Operations

end Depot
