import Mathlib.Data.List.Forall2

/-!
When a computation that may fail succeeds: its parts do.
-/

namespace Depot

variable {ε α β : Type}

theorem map_eq_ok {x : Except ε α} {f : α → β} {b : β} :
    x.map f = .ok b ↔ ∃ a, x = .ok a ∧ f a = b := by
  cases x with
  | error e => exact ⟨nofun, fun ⟨_, h, _⟩ => nomatch h⟩
  | ok a => exact ⟨fun h => ⟨a, rfl, Except.ok.inj h⟩, fun ⟨_, rfl, h⟩ => congrArg _ h⟩

theorem bind_eq_ok {x : Except ε α} {f : α → Except ε β} {b : β} :
    x >>= f = .ok b ↔ ∃ a, x = .ok a ∧ f a = .ok b := by
  cases x with
  | error e => exact ⟨nofun, fun ⟨_, h, _⟩ => nomatch h⟩
  | ok a => exact ⟨fun h => ⟨a, rfl, h⟩, fun ⟨_, rfl, h⟩ => h⟩

theorem mapM_eq_some {f : α → Option β} {as : List α} {bs : List β} :
    as.mapM f = some bs ↔ List.Forall₂ (fun a b => f a = some b) as bs := by
  induction as generalizing bs with
  | nil => rw [List.mapM_nil, List.forall₂_nil_left_iff]; exact eq_comm.trans Option.some_inj
  | cons a as ih =>
      simp only [List.mapM_cons, Option.bind_eq_bind, Option.bind_eq_some_iff, ih,
        List.forall₂_cons_left_iff]
      constructor
      · rintro ⟨b, ha, bs', has, h⟩
        cases h
        exact ⟨b, bs', ha, has, rfl⟩
      · rintro ⟨b, bs', ha, has, rfl⟩
        exact ⟨b, ha, bs', has, rfl⟩

theorem exists_of_mem_mapM {f : α → Option β} {as : List α} {bs : List β}
    (h : as.mapM f = some bs) {b : β} (hb : b ∈ bs) : ∃ a ∈ as, f a = some b := by
  have hall := mapM_eq_some.1 h
  clear h
  induction hall with
  | nil => cases hb
  | cons ha _ ih =>
      rcases List.mem_cons.1 hb with rfl | hb
      · exact ⟨_, List.mem_cons_self, ha⟩
      · obtain ⟨a, has, ha⟩ := ih hb
        exact ⟨a, List.mem_cons_of_mem _ has, ha⟩

theorem exists_of_mapM {f : α → Option β} {as : List α} {bs : List β} (h : as.mapM f = some bs)
    {a : α} (ha : a ∈ as) : ∃ b, f a = some b := by
  have hall := mapM_eq_some.1 h
  clear h
  induction hall with
  | nil => cases ha
  | cons hb _ ih =>
      rcases List.mem_cons.1 ha with rfl | ha
      · exact ⟨_, hb⟩
      · exact ih ha

/-- Steps that can be swapped can be made in any order. -/
theorem foldlM_perm {f : β → α → Except ε β} {R : α → α → Prop} (hsymm : ∀ {a b}, R a b → R b a)
    (hswap : ∀ {a b r r'}, R a b → (∃ r₁, f r a = .ok r₁ ∧ f r₁ b = .ok r') →
      ∃ r₁, f r b = .ok r₁ ∧ f r₁ a = .ok r')
    {as bs : List α} (h : as.Perm bs) (hR : as.Pairwise R) {r r' : β}
    (has : as.foldlM f r = .ok r') : bs.foldlM f r = .ok r' := by
  induction h generalizing r with
  | nil => exact has
  | cons a _ ih =>
      rw [List.foldlM_cons, bind_eq_ok] at has ⊢
      obtain ⟨r₁, ha, hrest⟩ := has
      exact ⟨r₁, ha, ih (List.pairwise_cons.1 hR).2 hrest⟩
  | swap b a as =>
      simp only [List.foldlM_cons, bind_eq_ok] at has ⊢
      obtain ⟨r₁, ha, r₂, hb, hrest⟩ := has
      obtain ⟨r₁', hb', ha'⟩ :=
        hswap ((List.pairwise_cons.1 hR).1 _ List.mem_cons_self) ⟨r₁, ha, hb⟩
      exact ⟨r₁', hb', r₂, ha', hrest⟩
  | trans h _ ih ih' =>
      exact ih' (h.pairwise hR fun hab => hsymm hab) (ih hR has)

end Depot
