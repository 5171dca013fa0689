import Depot.Proofs.Conversation
import Depot.Proofs.Run

/-!
Bounds on what a run may touch. A scope says what may be sent and which files and directories may
be looked at. What holds whatever happens within a scope is kept by every run that stays in it; in
particular the record of the session grows by nothing else.
-/

namespace Depot

open Http Session

structure Scope where
  sends : Sent → Prop
  opens : Files.Path → Prop

/-- What is true stays true while something is read within the scope. Nothing is put into caches. -/
structure Scope.SparesReading (scope : Scope) (inv : Session → Prop) : Prop where
  contact : ∀ s sent limits, inv s → scope.sends sent → inv (s.contact sent limits).2
  clock : ∀ s time, inv s → inv { s with clock := time }
  opened : ∀ s path, inv s → scope.opens path → inv { s with opened := s.opened ++ [path] }

/-- What is true stays true while a run keeps to the scope. Verdicts on repositories are left out:
they are reached by normalization alone. -/
structure Scope.Spares (scope : Scope) (inv : Session → Prop) : Prop
    extends scope.SparesReading inv where
  metadata : ∀ s key m, inv s → inv { s with metadata := s.metadata.put key m }

variable {scope : Scope} {inv : Session → Prop}

theorem Session.hold_keeps (hinv : scope.SparesReading inv) {α : Type} {Q : α → Prop}
    {c : Conversation α} (hc : c.Sends scope.sends Q) : Run.Keeps inv (hold c) Q := by
  induction c with
  | done a => exact Run.Keeps.pure hc
  | attempt sent limits next ih =>
      intro s hs
      exact ih _ (hc.2 _) _ (hinv.clock _ _ (hinv.contact s sent limits hs hc.1))
  | pause ms next ih =>
      intro s hs
      exact ih hc _ (hinv.clock s _ hs)

theorem Session.readFile_keeps (hinv : scope.SparesReading inv) {path : Files.Path}
    (h : scope.opens path) : Run.Keeps inv (readFile path) fun _ => True :=
  fun s hs => ⟨hinv.opened s path hs h, trivial⟩

theorem Session.listDirectories_keeps (hinv : scope.SparesReading inv) {path : Files.Path}
    (h : scope.opens path) : Run.Keeps inv (listDirectories path) fun _ => True :=
  fun s hs => ⟨hinv.opened s path hs h, trivial⟩

/-- What an attempt to send something can leave in the record. -/
inductive Contact.Shows (sent : Sent) : Contact → Prop
  | request : Shows sent (.request sent)
  | noConnection (connection : Connection) : Shows sent (.noConnection sent.server connection)

theorem Network.attempt_shows (n : Network) (before : List Contact) (sent : Sent)
    (limits : Limits) : Contact.Shows sent (n.attempt before sent limits).2 := by
  unfold Network.attempt
  dsimp only
  split
  · exact .noConnection _
  · split
    · exact .request
    · exact .noConnection _
    · exact .noConnection _
    · exact .noConnection _

theorem Session.contact_eq_touch (s : Session) (sent : Sent) (limits : Limits) :
    ∃ contact, Contact.Shows sent contact ∧ (s.contact sent limits).2 = s.touch contact :=
  ⟨_, s.network.attempt_shows s.contacts sent limits, rfl⟩

/-- The record has grown by what the scope allows. -/
structure Session.Within (scope : Scope) (start s : Session) : Prop where
  contacts : ∃ more, s.contacts = start.contacts ++ more ∧
    ∀ contact ∈ more, ∃ sent, scope.sends sent ∧ contact.Shows sent
  opened : ∃ more, s.opened = start.opened ++ more ∧ ∀ path ∈ more, scope.opens path

theorem Session.Within.refl (scope : Scope) (s : Session) : Within scope s s :=
  ⟨⟨[], by simp⟩, ⟨[], by simp⟩⟩

theorem Session.Within.mono {scope' : Scope} {start s : Session} (h : Within scope start s)
    (hsends : ∀ sent, scope.sends sent → scope'.sends sent)
    (hopens : ∀ path, scope.opens path → scope'.opens path) : Within scope' start s := by
  obtain ⟨⟨contacts, hcontacts, hsent⟩, opened, hopened, hpaths⟩ := h
  refine ⟨⟨contacts, hcontacts, fun contact hcontact => ?_⟩,
    opened, hopened, fun path hpath => hopens path (hpaths path hpath)⟩
  obtain ⟨sent, hscope, hshows⟩ := hsent contact hcontact
  exact ⟨sent, hsends sent hscope, hshows⟩

theorem Scope.spares_within (scope : Scope) (start : Session) :
    scope.Spares (Session.Within scope start) where
  contact := by
    rintro s sent limits ⟨⟨more, hmore, hall⟩, hopened⟩ hsent
    obtain ⟨contact, hshows, ht⟩ := s.contact_eq_touch sent limits
    rw [ht]
    refine ⟨⟨more ++ [contact], by simp [touch, hmore], ?_⟩, hopened⟩
    intro x hx
    rcases List.mem_append.1 hx with hx | hx
    · exact hall x hx
    · rw [List.mem_singleton.1 hx]
      exact ⟨sent, hsent, hshows⟩
  clock _ _ h := ⟨h.contacts, h.opened⟩
  opened := by
    rintro s path ⟨hcontacts, more, hmore, hall⟩ hpath
    refine ⟨hcontacts, more ++ [path], by simp [hmore], ?_⟩
    intro x hx
    rcases List.mem_append.1 hx with hx | hx
    · exact hall x hx
    · rwa [List.mem_singleton.1 hx]
  metadata _ _ _ h := ⟨h.contacts, h.opened⟩

/-- Verdicts stay as they are, so whatever is said of them alone is spared. -/
theorem Scope.spares_normalized (scope : Scope) (P : Cache Normalization.Key Bool → Prop) :
    scope.Spares fun s => P s.normalized where
  contact s sent limits h _ := by
    obtain ⟨contact, -, ht⟩ := s.contact_eq_touch sent limits
    rw [ht]
    exact h
  clock _ _ h := h
  opened _ _ h _ := h
  metadata _ _ _ h := h

theorem Scope.Spares.and {inv' : Session → Prop} (h : scope.Spares inv) (h' : scope.Spares inv') :
    scope.Spares fun s => inv s ∧ inv' s where
  contact s sent limits hs hsent :=
    ⟨h.contact s sent limits hs.1 hsent, h'.contact s sent limits hs.2 hsent⟩
  clock s time hs := ⟨h.clock s time hs.1, h'.clock s time hs.2⟩
  opened s path hs hpath := ⟨h.opened s path hs.1 hpath, h'.opened s path hs.2 hpath⟩
  metadata s key m hs := ⟨h.metadata s key m hs.1, h'.metadata s key m hs.2⟩

end Depot
