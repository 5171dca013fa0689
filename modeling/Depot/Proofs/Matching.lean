import Depot.Proofs.Conversation
import Depot.Proofs.Run
import Depot.Proofs.Scope
import Depot.Repository.Access
import Mathlib.Data.List.Forall2

/-!
Two runs side by side. They match in a relation of sessions if, begun in related sessions, they end
in related sessions and with related values. Conversations match if what they send is related and
the same outcomes lead to related values.
-/

namespace Depot

open Http Repository

/-- What can be told of the masked values is the same for values that look the same. -/
theorem congr_of_mask {α β : Type} {mask : α → α} {a a' : α} (h : mask a = mask a') (f : α → β)
    (hf : ∀ a, f (mask a) = f a) : f a = f a' := by
  rw [← hf, h, hf]

theorem any_eq_of_forall₂ {α β : Type} {V : α → β → Prop} {as : List α} {bs : List β}
    (h : List.Forall₂ V as bs) {p : α → Bool} {q : β → Bool} (hp : ∀ a b, V a b → p a = q b) :
    as.any p = bs.any q := by
  induction h with
  | nil => rfl
  | cons hab _ ih => rw [List.any_cons, List.any_cons, hp _ _ hab, ih]

theorem map_eq_of_forall₂ {α β γ : Type} {V : α → β → Prop} {as : List α} {bs : List β}
    (h : List.Forall₂ V as bs) {f : α → γ} {g : β → γ} (hf : ∀ a b, V a b → f a = g b) :
    as.map f = bs.map g := by
  induction h with
  | nil => rfl
  | cons hab _ ih => rw [List.map_cons, List.map_cons, hf _ _ hab, ih]

variable {R : Session → Session → Prop}

namespace Run

variable {α α' β β' : Type}

def Matches (R : Session → Session → Prop) (x : Run α) (x' : Run α') (post : α → α' → Prop) :
    Prop :=
  ∀ s s', R s s' → R (x s).2 (x' s').2 ∧ post (x s).1 (x' s').1

namespace Matches

theorem pure {post : α → α' → Prop} {a : α} {a' : α'} (h : post a a') :
    Matches R (pure a) (pure a') post :=
  fun _ _ hs => ⟨hs, h⟩

theorem bind {x : Run α} {x' : Run α'} {f : α → Run β} {f' : α' → Run β'} {mid : α → α' → Prop}
    {post : β → β' → Prop} (hx : Matches R x x' mid)
    (hf : ∀ a a', mid a a' → Matches R (f a) (f' a') post) :
    Matches R (x >>= f) (x' >>= f') post := by
  intro s s' hs
  obtain ⟨hs', ha⟩ := hx s s' hs
  exact hf _ _ ha _ _ hs'

/-- What follows need only be compared for one value. -/
theorem bind_eq {x x' : Run α} {f : α → Run β} {f' : α → Run β'} {post : β → β' → Prop}
    (hx : Matches R x x' Eq) (hf : ∀ a, Matches R (f a) (f' a) post) :
    Matches R (x >>= f) (x' >>= f') post := by
  refine hx.bind ?_
  rintro a _ rfl
  exact hf a

theorem get : Matches R get get R := fun _ _ hs => ⟨hs, hs⟩

theorem modify {f f' : Session → Session} (h : ∀ s s', R s s' → R (f s) (f' s')) :
    Matches R (modify f) (modify f') fun _ _ => True :=
  fun s s' hs => ⟨h s s' hs, trivial⟩

theorem foldlM {γ γ' : Type} {V : γ → γ' → Prop} {step : α → γ → Run α} {step' : α' → γ' → Run α'}
    {post : α → α' → Prop} {cs : List γ} {cs' : List γ'} (hcs : List.Forall₂ V cs cs')
    (h : ∀ a a' c c', V c c' → post a a' → Matches R (step a c) (step' a' c') post)
    {a : α} {a' : α'} (ha : post a a') :
    Matches R (cs.foldlM step a) (cs'.foldlM step' a') post := by
  induction hcs generalizing a a' with
  | nil => exact Matches.pure ha
  | cons hc _ ih =>
      rw [List.foldlM_cons, List.foldlM_cons]
      exact (h a a' _ _ hc ha).bind fun _ _ => ih

theorem mapM {V : α → α' → Prop} {f : α → Run β} {f' : α' → Run β'} {post : β → β' → Prop}
    {as : List α} {as' : List α'} (has : List.Forall₂ V as as')
    (h : ∀ a a', V a a' → Matches R (f a) (f' a') post) :
    Matches R (as.mapM f) (as'.mapM f') (List.Forall₂ post) := by
  induction has with
  | nil => exact Matches.pure .nil
  | cons ha _ ih =>
      rw [List.mapM_cons, List.mapM_cons]
      refine (h _ _ ha).bind fun b b' hb => ?_
      exact ih.bind fun bs bs' hbs => Matches.pure (.cons hb hbs)

end Matches

end Run

open Run

namespace Http.Conversation

variable {α α' β β' : Type} {S : Sent → Sent → Prop}

/-- Attempts come in pairs of which `S` holds, and the same outcomes lead to ends of which `Q`
holds. -/
inductive Matches (S : Sent → Sent → Prop) (Q : α → α' → Prop) :
    Conversation α → Conversation α' → Prop
  | done {a : α} {a' : α'} : Q a a' → Matches S Q (.done a) (.done a')
  | attempt {sent sent' : Sent} {limits : Limits} {next : Except Cause Response → Conversation α}
      {next' : Except Cause Response → Conversation α'} : S sent sent' →
      (∀ outcome, Matches S Q (next outcome) (next' outcome)) →
      Matches S Q (.attempt sent limits next) (.attempt sent' limits next')
  | pause {ms : Nat} {next : Conversation α} {next' : Conversation α'} :
      Matches S Q next next' → Matches S Q (.pause ms next) (.pause ms next')

namespace Matches

theorem bind {Q : α → α' → Prop} {P : β → β' → Prop} {c : Conversation α} {c' : Conversation α'}
    {f : α → Conversation β} {f' : α' → Conversation β'} (hc : c.Matches S Q c')
    (hf : ∀ a a', Q a a' → (f a).Matches S P (f' a')) : (c.bind f).Matches S P (c'.bind f') := by
  induction hc with
  | done ha => exact hf _ _ ha
  | attempt hsent _ ih => exact .attempt hsent ih
  | pause _ ih => exact .pause ih

theorem map {c c' : Conversation α} (f : α → β) (hc : c.Matches S Eq c') :
    (c.map f).Matches S Eq (c'.map f) := by
  refine hc.bind ?_
  rintro a _ rfl
  exact .done rfl

theorem refl (c : Conversation α) : c.Matches Eq Eq c := by
  induction c with
  | done a => exact .done rfl
  | attempt sent limits next ih => exact .attempt rfl ih
  | pause ms next ih => exact .pause ih

theorem eq {c c' : Conversation α} (h : c.Matches Eq Eq c') : c = c' := by
  induction h with
  | done ha => rw [ha]
  | attempt hsent _ ih => rw [hsent, funext ih]
  | pause _ ih => rw [ih]

/-- A conversation matches itself, and what it may send is known on both sides. -/
theorem of_sends {P : Sent → Prop} {Q : α → Prop} {c : Conversation α} (hc : c.Sends P Q) :
    c.Matches (fun sent sent' => sent = sent' ∧ P sent) Eq c := by
  induction c with
  | done a => exact .done rfl
  | attempt sent limits next ih =>
      exact .attempt ⟨rfl, hc.1⟩ fun outcome => ih outcome (hc.2 outcome)
  | pause ms next ih => exact .pause (ih hc)

theorem attempts {settings : Settings} {uri : String} {sent sent' : Sent} (h : S sent sent')
    (left : Nat) :
    (attempts settings uri sent left).Matches S Eq (attempts settings uri sent' left) := by
  induction left with
  | zero =>
      refine .attempt h fun outcome => ?_
      cases outcome <;> exact .done rfl
  | succ left ih =>
      refine .attempt h fun outcome => ?_
      cases outcome with
      | ok response => exact .done rfl
      | error cause =>
          dsimp only
          split
          · exact .pause ih
          · exact .done rfl

end Matches

end Http.Conversation

/-- Neither or both of two requests can be sent, and in the second case `S` holds of them. -/
inductive Http.Request.Matches (S : Sent → Sent → Prop) (settings : Settings)
    (request request' : Request) : Prop
  | invalid {reason : Invalid} : request.prepare settings = .error reason →
      request'.prepare settings = .error reason → Matches S settings request request'
  | valid {sent sent' : Sent} : request.prepare settings = .ok sent →
      request'.prepare settings = .ok sent' → S sent sent' → Matches S settings request request'

theorem Http.Conversation.Matches.send {S : Sent → Sent → Prop} {settings : Settings}
    {request request' : Request} (huri : request.uri = request'.uri)
    (h : request.Matches S settings request') :
    (send settings request).Matches S Eq (send settings request') := by
  unfold Conversation.send
  cases h with
  | invalid hreason hreason' =>
      rw [hreason, hreason', huri]
      exact .done rfl
  | valid hsent hsent' hS =>
      rw [hsent, hsent', huri]
      exact .attempts hS _

/-- Sessions that are related stay related while the same is sent on both sides, and the same comes
of it. -/
structure Session.Pairs (R : Session → Session → Prop) (S : Sent → Sent → Prop) : Prop where
  contact : ∀ {s s' sent sent'} (limits : Limits), R s s' → S sent sent' →
    (s.contact sent limits).1 = (s'.contact sent' limits).1 ∧
      R (s.contact sent limits).2 (s'.contact sent' limits).2
  clock : ∀ {s s'}, R s s' → s.clock = s'.clock
  setClock : ∀ {s s'} (time : Nat), R s s' → R { s with clock := time } { s' with clock := time }

theorem Session.Pairs.refl : Session.Pairs Eq Eq where
  contact := by
    rintro s _ sent _ limits rfl rfl
    exact ⟨rfl, rfl⟩
  clock h := congrArg Session.clock h
  setClock := by
    rintro s _ time rfl
    rfl

theorem Session.Pairs.wait {S : Sent → Sent → Prop} (hR : Session.Pairs R S) {s s' : Session}
    (h : R s s') (ms : Nat) : R (s.wait ms) (s'.wait ms) := by
  unfold Session.wait
  rw [hR.clock h]
  exact hR.setClock _ h

theorem Session.hold_matches {S : Sent → Sent → Prop} (hR : Session.Pairs R S) {α α' : Type}
    {Q : α → α' → Prop} {c : Conversation α} {c' : Conversation α'} (hc : c.Matches S Q c') :
    Matches R (hold c) (hold c') Q := by
  induction hc with
  | done ha => exact Matches.pure ha
  | @attempt sent sent' limits next next' hsent _ ih =>
      intro s s' hs
      obtain ⟨hsame, hs'⟩ := hR.contact limits hs hsent
      -- The outcome on the left decides how both sides go on.
      have hstep : hold (.attempt sent' limits next') s' =
          hold (next' (s.contact sent limits).1.2)
            ((s'.contact sent' limits).2.wait (s.contact sent limits).1.1) := by
        rw [hsame]
        rfl
      rw [hstep]
      exact ih _ _ _ (hR.wait hs' _)
  | pause _ ih =>
      intro s s' hs
      exact ih _ _ (hR.wait hs _)

end Depot
