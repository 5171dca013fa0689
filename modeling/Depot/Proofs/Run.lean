import Depot.Session

/-!
Runs and what they keep. A run keeps an invariant of sessions if it ends where the invariant holds
whenever it begins where it holds; its value is then one that is promised.
-/

namespace Depot.Run

variable {α β : Type} {inv : Session → Prop}

theorem bind_apply (x : Run α) (f : α → Run β) (s : Session) :
    (x >>= f) s = f (x s).1 (x s).2 := rfl

theorem pure_apply (a : α) (s : Session) : (pure a : Run α) s = (a, s) := rfl

theorem get_apply (s : Session) : (get : Run Session) s = (s, s) := rfl

def Keeps (inv : Session → Prop) (x : Run α) (post : α → Prop) : Prop :=
  ∀ s, inv s → inv (x s).2 ∧ post (x s).1

namespace Keeps

theorem pure {post : α → Prop} {a : α} (h : post a) : Keeps inv (pure a : Run α) post :=
  fun _ hs => ⟨hs, h⟩

theorem bind {x : Run α} {f : α → Run β} {mid : α → Prop} {post : β → Prop}
    (hx : Keeps inv x mid) (hf : ∀ a, mid a → Keeps inv (f a) post) : Keeps inv (x >>= f) post := by
  intro s hs
  obtain ⟨hs', ha⟩ := hx s hs
  exact hf _ ha _ hs'

theorem get : Keeps inv (get : Run Session) inv := fun _ hs => ⟨hs, hs⟩

theorem modify {f : Session → Session} (h : ∀ s, inv s → inv (f s)) :
    Keeps inv (modify f : Run Unit) fun _ => True :=
  fun s hs => ⟨h s hs, trivial⟩

theorem true (x : Run α) : Keeps (fun _ => True) x fun _ => True := fun _ _ => ⟨trivial, trivial⟩

theorem foldlM {step : β → α → Run β} {post : β → Prop} {as : List α}
    (h : ∀ b, ∀ a ∈ as, post b → Keeps inv (step b a) post) {b : β} (hb : post b) :
    Keeps inv (as.foldlM step b) post := by
  induction as generalizing b with
  | nil => exact Keeps.pure hb
  | cons a as ih =>
      rw [List.foldlM_cons]
      refine Keeps.bind (h b a List.mem_cons_self hb) fun b' hb' => ?_
      exact ih (fun b a ha => h b a (List.mem_cons_of_mem _ ha)) hb'

end Keeps

end Depot.Run
