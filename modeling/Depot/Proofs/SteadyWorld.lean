import Depot.Proofs.Reading
import Depot.Proofs.ReadingAlike

/-!
What is read in a world that answers the same way every time. The answer of a run that only reads
depends on the world alone, not on what was asked before, and nothing but the record of the session
changes.
-/

namespace Depot

open Http Repository

/-- What surrounds a session. -/
structure World where
  network : Network := .empty
  files : Files := []
  environment : List (String × String) := []

namespace World

def lookup (w : World) (name : String) : Option String := w.environment.lookup name

/-- A session that begins in this world, with empty caches. -/
def start (w : World) : Session :=
  { network := w.network, files := w.files, environment := w.environment }

end World

namespace Session

def world (s : Session) : World := ⟨s.network, s.files, s.environment⟩

/-- What is left of a session without its record: its world and its caches. -/
def bare (s : Session) : Session := { s with contacts := [], clock := 0, opened := [] }

@[simp] theorem world_bare (s : Session) : s.bare.world = s.world := rfl

@[simp] theorem normalized_bare (s : Session) : s.bare.normalized = s.normalized := rfl

@[simp] theorem metadata_bare (s : Session) : s.bare.metadata = s.metadata := rfl

@[simp] theorem network_bare (s : Session) : s.bare.network = s.network := rfl

@[simp] theorem bare_contact (s : Session) (sent : Sent) (limits : Limits) :
    (s.contact sent limits).2.bare = s.bare := by
  obtain ⟨contact, -, ht⟩ := s.contact_eq_touch sent limits
  rw [ht]
  rfl

theorem world_eq_of_bare_eq {s s' : Session} (h : s'.bare = s.bare) : s'.world = s.world := by
  rw [← s'.world_bare, h, s.world_bare]

theorem normalized_eq_of_bare_eq {s s' : Session} (h : s'.bare = s.bare) :
    s'.normalized = s.normalized := by
  rw [← s'.normalized_bare, h, s.normalized_bare]

theorem metadata_eq_of_bare_eq {s s' : Session} (h : s'.bare = s.bare) :
    s'.metadata = s.metadata := by
  rw [← s'.metadata_bare, h, s.metadata_bare]

theorem network_contact (s : Session) (sent : Sent) (limits : Limits) :
    (s.contact sent limits).2.network = s.network := by
  rw [← network_bare, bare_contact, network_bare]

end Session

@[simp] theorem World.world_start (w : World) : w.start.world = w := rfl

/-- Whatever is read, the world and the caches stay as they are. -/
theorem Scope.sparesReading_bare (scope : Scope) (bare : Session) :
    scope.SparesReading fun s => s.bare = bare where
  contact s sent limits h _ := (s.bare_contact sent limits).trans h
  clock _ _ h := h
  opened _ _ h _ := h

theorem Session.bare_hold {α : Type} (s : Session) (c : Conversation α) :
    (Session.hold c s).2.bare = s.bare := by
  let everything : Scope := ⟨fun _ => True, fun _ => True⟩
  have hsends : c.Sends everything.sends fun _ => True :=
    Conversation.sends_of_forall (fun _ => trivial) (fun _ => trivial) c
  exact (Session.hold_keeps (everything.sparesReading_bare s.bare) hsends s rfl).1

/-- The outcome of an attempt that nothing came before. -/
def Network.outcome (n : Network) (sent : Sent) (limits : Limits) : Except Cause Response :=
  (n.attempt [] sent limits).1.2

theorem Session.outcome_contact {s : Session} (h : s.network.IsSteady) (sent : Sent)
    (limits : Limits) : (s.contact sent limits).1.2 = s.network.outcome sent limits := by
  have hcontact : (s.contact sent limits).1 = (s.network.attempt s.contacts sent limits).1 := rfl
  rw [hcontact, Network.outcome, Network.attempt, Network.attempt, h.1 s.contacts [],
    h.2 s.contacts []]

theorem Network.isSteady_empty : Network.empty.IsSteady := ⟨fun _ _ _ => rfl, fun _ _ _ => rfl⟩

/-- The value that a conversation ends with if servers answer as they do in the beginning. -/
def Http.Conversation.endIn {α : Type} (n : Network) : Conversation α → α
  | done a => a
  | attempt sent limits next => (next (n.outcome sent limits)).endIn n
  | pause _ next => next.endIn n

namespace Run

variable {α : Type} {w : World} {x x' : Run α}

/-- In this world the run answers this, and only the record of the session changes. -/
def Tells (w : World) (x : Run α) (a : α) : Prop :=
  ∀ s : Session, s.world = w → (x s).1 = a ∧ (x s).2.bare = s.bare

namespace Tells

theorem readFile (path : Files.Path) : Tells w (Session.readFile path) (w.files.read path) := by
  rintro s rfl
  exact ⟨rfl, rfl⟩

theorem listDirectories (path : Files.Path) :
    Tells w (Session.listDirectories path) (w.files.directories path) := by
  rintro s rfl
  exact ⟨rfl, rfl⟩

theorem hold (hw : w.network.IsSteady) (c : Conversation α) :
    Tells w (Session.hold c) (c.endIn w.network) := by
  intro s hs
  refine ⟨?_, s.bare_hold c⟩
  induction c generalizing s with
  | done a => rfl
  | attempt sent limits next ih =>
      subst hs
      refine (ih (s.contact sent limits).1.2 _ ?_).trans ?_
      · exact Session.world_eq_of_bare_eq (s.bare_contact sent limits)
      · rw [Session.outcome_contact hw]
        rfl
  | pause ms next ih =>
      subst hs
      exact ih (s.wait ms) rfl

end Tells

/-- What these sessions are without their records. -/
def Session.Bares (b b' s s' : Session) : Prop := s.bare = b ∧ s'.bare = b'

/-- In this world both runs answer the same, and only the record of the session changes. -/
def Agree (w : World) (x y : Run α) : Prop := ∃ a, Tells w x a ∧ Tells w y a

namespace Agree

theorem tells {s : Session} (h : Agree w x x') (hw : s.world = w) : Tells w x (x' s).1 := by
  obtain ⟨a, ha, ha'⟩ := h
  rwa [(ha' s hw).1]

theorem matches_bares (h : Agree w x x') {b b' : Session} (hb : b.world = w) (hb' : b'.world = w) :
    Matches (Session.Bares b b') x x' Eq := by
  obtain ⟨a, ha, ha'⟩ := h
  rintro s s' ⟨rfl, rfl⟩
  obtain ⟨hvalue, hbare⟩ := ha s hb
  obtain ⟨hvalue', hbare'⟩ := ha' s' hb'
  exact ⟨⟨hbare, hbare'⟩, hvalue.trans hvalue'.symm⟩

/-- Whatever the sessions are, the answers are those of sessions that begin in this world. -/
theorem of_matches (h : ∀ b b' : Session, b.world = w → b'.world = w →
    Matches (Session.Bares b b') x x' Eq) : Agree w x x' := by
  have hside (s s' : Session) (hs : s.world = w) (hs' : s'.world = w) :=
    h s.bare s'.bare hs hs' s s' ⟨rfl, rfl⟩
  obtain ⟨-, hstart⟩ := hside w.start w.start w.world_start w.world_start
  refine ⟨(x' w.start).1, fun s hs => ?_, fun s hs => ?_⟩
  · obtain ⟨⟨hbare, -⟩, hvalue⟩ := hside s w.start hs w.world_start
    exact ⟨hvalue, hbare⟩
  · obtain ⟨⟨-, hbare⟩, hvalue⟩ := hside w.start s w.world_start hs
    exact ⟨hvalue.symm.trans hstart, hbare⟩

end Agree

end Run

open Run

/-- In this world the same is read from both. Directories are read as nobody in particular. -/
structure Repository.Access.ReadsAlike (w : World) (a a' : Access) : Prop where
  place : a.place = a'.place
  credentials : ∀ base, a.place = .remote base →
    a.repository.credentials.bind (Credentials.resolve? w.lookup) =
      a'.repository.credentials.bind (Credentials.resolve? w.lookup)

theorem Http.Conversation.negotiate_congr {settings : Settings} {lookup : String → Option String}
    {request : Request} {credentials credentials' : Option Credentials}
    (h : credentials.bind (Credentials.resolve? lookup) =
      credentials'.bind (Credentials.resolve? lookup)) :
    negotiate settings lookup request credentials =
      negotiate settings lookup request credentials' := by
  unfold negotiate
  rw [h]

variable {w : World} {settings : Settings} {a a' : Access}

theorem Session.lookup_of_bares {b b' s s' : Session} (hb : b.world = w) (hb' : b'.world = w)
    (h : Session.Bares b b' s s') : s.lookup = w.lookup ∧ s'.lookup = w.lookup := by
  obtain ⟨rfl, rfl⟩ := h
  subst hb
  exact ⟨rfl, congrArg World.lookup hb'⟩

namespace Repository.Access.ReadsAlike

variable {b b' : Session}

theorem fetchAlike (hw : w.network.IsSteady) (h : a.ReadsAlike w a') (hb : b.world = w)
    (hb' : b'.world = w) : a.FetchAlike (Session.Bares b b') settings a' := by
  refine .of_place h.place (fun root path _ => ?_) fun base path hbase s s' hs => ?_
  · exact Agree.matches_bares ⟨_, .readFile _, .readFile _⟩ hb hb'
  · obtain ⟨hlookup, hlookup'⟩ := Session.lookup_of_bares hb hb' hs
    rw [hlookup, hlookup', Conversation.negotiate_congr (h.credentials base hbase)]
    exact Agree.matches_bares ⟨_, .hold hw _, .hold hw _⟩ hb hb'

theorem listAlike (hw : w.network.IsSteady) (h : a.ReadsAlike w a') (hb : b.world = w)
    (hb' : b'.world = w) : a.ListAlike (Session.Bares b b') settings a' := by
  refine .of_place h.place (fun root path _ => ?_) (h.fetchAlike hw hb hb')
  exact Agree.matches_bares ⟨_, .listDirectories _, .listDirectories _⟩ hb hb'

end Repository.Access.ReadsAlike

/-- What is looked up depends on where and as whom it is asked for, and on the listing of versions
only where there are versions to be listed. -/
theorem Resolution.lookUp_agree {ga : GroupArtifact} {versionDirectory : Option String}
    (hw : w.network.IsSteady) (h : a.ReadsAlike w a')
    (hlocal : a.repository.isLocal = a'.repository.isLocal)
    (hderive : versionDirectory = none →
      a.repository.deriveMetadata = a'.repository.deriveMetadata) :
    Agree w (lookUp settings a ga versionDirectory) (lookUp settings a' ga versionDirectory) :=
  .of_matches fun _ _ hb hb' =>
    lookUp_matches hlocal hderive (h.fetchAlike hw hb hb') fun _ => h.listAlike hw hb hb'

end Depot
