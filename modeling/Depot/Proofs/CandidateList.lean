import Depot.Proofs.NormalizationOrder

/-!
The book that is kept of supplied repositories. They are normalized one after the other; the first
one that is answered for a URI is used, others that are answered repeat it, and all others are
dropped. What is used and what is dropped is told by places in the list of what was supplied, as a
repository can be supplied twice.
-/

namespace Depot.Download

open Http Normalization Repository Run Text

variable {α : Type} {P P' : Nat → Prop} {R R' : Nat → α → Prop} {as : List α} {n : Nat}

/-- The list goes through the places of which `P` holds, once each and in their order. -/
def Enumerates (P : Nat → Prop) (R : Nat → α → Prop) (as : List α) : Prop :=
  ∃ places : List Nat, places.Pairwise (· < ·) ∧ (∀ i, i ∈ places ↔ P i) ∧
    List.Forall₂ R places as

namespace Enumerates

theorem nil (h : ∀ i, ¬P i) : Enumerates P R [] :=
  ⟨[], .nil, fun i => by simp [h i], .nil⟩

theorem mono (h : Enumerates P R as) (hP : ∀ i, P' i ↔ P i) (hR : ∀ i a, P i → R i a → R' i a) :
    Enumerates P' R' as := by
  obtain ⟨places, hordered, hplaces, hall⟩ := h
  refine ⟨places, hordered, fun i => (hplaces i).trans (hP i).symm, ?_⟩
  refine List.forall₂_iff_get.2 ⟨hall.length_eq, fun i hi hi' => ?_⟩
  exact hR _ _ ((hplaces _).1 (List.get_mem ..)) (List.forall₂_iff_get.1 hall |>.2 i hi hi')

theorem concat (h : Enumerates P R as) (hlt : ∀ i, P i → i < n)
    (hP : ∀ i, P' i ↔ P i ∨ i = n) {a : α} (ha : R n a) : Enumerates P' R (as ++ [a]) := by
  obtain ⟨places, hordered, hplaces, hall⟩ := h
  refine ⟨places ++ [n], ?_, fun i => ?_, List.rel_append hall (.cons ha .nil)⟩
  · rw [List.pairwise_append]
    refine ⟨hordered, List.pairwise_singleton .., fun i hi j hj => ?_⟩
    rw [List.mem_singleton.1 hj]
    exact hlt i ((hplaces i).1 hi)
  · rw [List.mem_append, hplaces, List.mem_singleton, hP]

theorem exists_of_mem (h : Enumerates P R as) {a : α} (ha : a ∈ as) : ∃ i, P i ∧ R i a := by
  obtain ⟨places, -, hplaces, hall⟩ := h
  obtain ⟨i, hi, rfl⟩ := List.getElem_of_mem ha
  have hi' : i < places.length := hall.length_eq ▸ hi
  exact ⟨places[i], (hplaces _).1 (List.getElem_mem hi'),
    (List.forall₂_iff_get.1 hall).2 i hi' hi⟩

theorem exists_mem (h : Enumerates P R as) {i : Nat} (hi : P i) : ∃ a ∈ as, R i a := by
  obtain ⟨places, -, hplaces, hall⟩ := h
  obtain ⟨k, hk, rfl⟩ := List.getElem_of_mem ((hplaces i).2 hi)
  have hk' : k < as.length := hall.length_eq ▸ hk
  exact ⟨as[k], List.getElem_mem hk', (List.forall₂_iff_get.1 hall).2 k hk hk'⟩

end Enumerates

section Places

/-- What repositories are answered when they are normalized one after the other. -/
abbrev Answers := List (Option Repository)

namespace Answers

variable {os : Answers} {o : Option Repository} {r : Repository} {i : Nat}

/-- The repository at this place is answered with another URI than all that are answered before. -/
def IsUsed (os : Answers) (i : Nat) : Prop :=
  ∃ r, os[i]? = some (some r) ∧ ∀ j < i, ∀ r', os[j]? = some (some r') → r'.uri ≠ r.uri

/-- The repository at this place is answered, with the URI of one that is used before. -/
def IsRepeated (os : Answers) (i : Nat) : Prop :=
  ∃ r, os[i]? = some (some r) ∧
    ∃ j < i, os.IsUsed j ∧ ∃ r', os[j]? = some (some r') ∧ r'.uri = r.uri

/-- The repository at this place can not be used. -/
def IsDropped (os : Answers) (i : Nat) : Prop := os[i]? = some none

theorem IsUsed.lt (h : os.IsUsed i) : i < os.length := by
  obtain ⟨r, hr, -⟩ := h
  exact (List.getElem?_eq_some_iff.1 hr).1

theorem IsDropped.lt (h : os.IsDropped i) : i < os.length := (List.getElem?_eq_some_iff.1 h).1

/-- A URI that is answered is that of a repository that is used, there or before. -/
theorem exists_isUsed (h : os[i]? = some (some r)) :
    ∃ j ≤ i, os.IsUsed j ∧ ∃ r', os[j]? = some (some r') ∧ r'.uri = r.uri := by
  induction i using Nat.strong_induction_on generalizing r with
  | _ i ih =>
      by_cases hfirst : ∀ j < i, ∀ r', os[j]? = some (some r') → r'.uri ≠ r.uri
      · exact ⟨i, le_rfl, ⟨r, h, hfirst⟩, r, h, rfl⟩
      · push Not at hfirst
        obtain ⟨j, hj, r', hr', huri⟩ := hfirst
        obtain ⟨k, hk, hused, r'', hr'', huri'⟩ := ih j hj hr'
        exact ⟨k, by omega, hused, r'', hr'', huri'.trans huri⟩

/-- Each place has exactly one of the three fates. -/
theorem fate (hi : i < os.length) :
    (os.IsUsed i ∨ os.IsRepeated i ∨ os.IsDropped i) ∧ ¬(os.IsUsed i ∧ os.IsRepeated i) ∧
      ¬(os.IsUsed i ∧ os.IsDropped i) ∧ ¬(os.IsRepeated i ∧ os.IsDropped i) := by
  refine ⟨?_, ?_, ?_, ?_⟩
  · cases ho : os[i] with
    | none => exact .inr (.inr (List.getElem?_eq_some_iff.2 ⟨hi, ho⟩))
    | some r =>
        have hr : os[i]? = some (some r) := List.getElem?_eq_some_iff.2 ⟨hi, ho⟩
        obtain ⟨j, hj, hused, hsame⟩ := exists_isUsed hr
        rcases Nat.lt_or_eq_of_le hj with hlt | rfl
        · exact .inr (.inl ⟨r, hr, j, hlt, hused, hsame⟩)
        · exact .inl hused
  · rintro ⟨⟨r, hr, hfirst⟩, r', hr', j, hj, -, r'', hr'', huri⟩
    cases hr.symm.trans hr'
    exact hfirst j hj r'' hr'' huri
  · rintro ⟨⟨r, hr, -⟩, hdropped⟩
    cases hr.symm.trans hdropped
  · rintro ⟨⟨r, hr, -⟩, hdropped⟩
    cases hr.symm.trans hdropped

theorem getElem?_concat_iff (o' : Option Repository) : (os ++ [o])[i]? = some o' ↔
    os[i]? = some o' ∨ i = os.length ∧ o = o' := by
  rcases Nat.lt_trichotomy i os.length with h | rfl | h
  · rw [List.getElem?_append_left h]
    simp [h.ne]
  · simp
  · rw [List.getElem?_eq_none (by simp; omega), List.getElem?_eq_none (by omega)]
    simp [h.ne']

theorem isDropped_concat : IsDropped (os ++ [o]) i ↔
    os.IsDropped i ∨ i = os.length ∧ o = none := getElem?_concat_iff none

theorem isUsed_concat_of_lt (hi : i < os.length) : IsUsed (os ++ [o]) i ↔ os.IsUsed i := by
  have hbefore {j : Nat} (hj : j < os.length) : (os ++ [o])[j]? = os[j]? :=
    List.getElem?_append_left hj
  unfold IsUsed
  rw [hbefore hi]
  refine exists_congr fun r => and_congr_right fun _ => forall₂_congr fun j hj => ?_
  rw [hbefore (hj.trans hi)]

theorem isUsed_concat : IsUsed (os ++ [o]) i ↔ os.IsUsed i ∨
    i = os.length ∧ ∃ r, o = some r ∧ ∀ r' : Repository, some r' ∈ os → r'.uri ≠ r.uri := by
  rcases Nat.lt_trichotomy i os.length with h | rfl | h
  · rw [isUsed_concat_of_lt h]
    simp [h.ne]
  · rw [or_iff_right fun h => h.lt.false]
    unfold IsUsed
    constructor
    · rintro ⟨r, hr, hfirst⟩
      refine ⟨rfl, r, by simpa using hr, fun r' hr' => ?_⟩
      obtain ⟨j, hj⟩ := List.mem_iff_getElem?.1 hr'
      exact hfirst j (List.getElem?_eq_some_iff.1 hj).1 r' ((getElem?_concat_iff _).2 (.inl hj))
    · rintro ⟨-, r, rfl, hfirst⟩
      refine ⟨r, by simp, fun j hj r' hr' => hfirst r' ?_⟩
      rw [List.getElem?_append_left hj] at hr'
      exact List.mem_of_getElem? hr'
  · have hne : ¬IsUsed (os ++ [o]) i := fun hused => by
      have hlt := hused.lt
      rw [List.length_append, List.length_singleton] at hlt
      omega
    simp [hne, h.ne', mt IsUsed.lt h.not_gt]

end Answers

end Places

/-- Takes up a repository that was answered. -/
def takeUp (found : Candidates) (r : Repository) : Option Repository → Candidates
  | none => { found with dropped := found.dropped ++ [⟨trim r.uri, unusable⟩] }
  | some r' =>
      if found.usable.any fun a => a.uri == r'.uri then found
      else { found with usable := found.usable ++ [r'.access] }

/-- Used repositories have been opened, and dropped ones have been told of. -/
structure Records (rs : List Repository) (os : Answers) (found : Candidates) : Prop where
  usable : Enumerates os.IsUsed (fun i a => ∃ r, os[i]? = some (some r) ∧ a = r.access) found.usable
  dropped : Enumerates os.IsDropped
    (fun i attempt => ∃ r, rs[i]? = some r ∧ attempt = ⟨trim r.uri, unusable⟩) found.dropped
  distinct : (found.usable.map Access.uri).Nodup

namespace Records

variable {rs : List Repository} {os : Answers} {found : Candidates}

theorem nil : Records [] [] {} where
  usable := .nil fun i => by simp [Answers.IsUsed]
  dropped := .nil fun i => by simp [Answers.IsDropped]
  distinct := List.nodup_nil

theorem uri_mem_iff (h : Records rs os found) (uri : String) :
    uri ∈ found.usable.map Access.uri ↔ ∃ r : Repository, some r ∈ os ∧ r.uri = uri := by
  rw [List.mem_map]
  constructor
  · rintro ⟨a, ha, rfl⟩
    obtain ⟨i, -, r, hr, rfl⟩ := h.usable.exists_of_mem ha
    exact ⟨r, List.mem_of_getElem? hr, by rw [Access.uri, repository_access]⟩
  · rintro ⟨r, hmem, rfl⟩
    obtain ⟨j, hr⟩ := List.mem_iff_getElem?.1 hmem
    obtain ⟨k, -, hused, r', hr', huri⟩ := Answers.exists_isUsed hr
    obtain ⟨a, ha, r'', hr'', rfl⟩ := h.usable.exists_mem hused
    cases hr'.symm.trans hr''
    exact ⟨_, ha, by rw [Access.uri, repository_access, huri]⟩

theorem usable_concat (h : Records rs os found) (o : Option Repository) : Enumerates os.IsUsed
    (fun i a => ∃ r, (os ++ [o])[i]? = some (some r) ∧ a = r.access) found.usable :=
  h.usable.mono (fun _ => Iff.rfl) fun _ _ _ ⟨r, hr, ha⟩ =>
    ⟨r, (Answers.getElem?_concat_iff _).2 (.inl hr), ha⟩

theorem dropped_concat (h : Records rs os found) (r : Repository) : Enumerates os.IsDropped
    (fun i attempt => ∃ r', (rs ++ [r])[i]? = some r' ∧ attempt = ⟨trim r'.uri, unusable⟩)
    found.dropped := by
  refine h.dropped.mono (fun _ => Iff.rfl) fun i attempt _ ⟨r', hr', hattempt⟩ => ⟨r', ?_, hattempt⟩
  rwa [List.getElem?_append_left (List.getElem?_eq_some_iff.1 hr').1]

theorem takeUp_none (h : Records rs os found) (hlength : rs.length = os.length) (r : Repository) :
    Records (rs ++ [r]) (os ++ [none]) (takeUp found r none) where
  usable := (h.usable_concat none).mono (fun i => by simp [Answers.isUsed_concat]) fun _ _ _ h => h
  dropped := by
    refine (h.dropped_concat r).concat (n := os.length) (fun i hi => hi.lt) (fun i => ?_) ?_
    · simp [Answers.isDropped_concat]
    · exact ⟨r, by simp [← hlength], rfl⟩
  distinct := h.distinct

theorem takeUp_some (h : Records rs os found) (r r' : Repository) :
    Records (rs ++ [r]) (os ++ [some r']) (takeUp found r (some r')) := by
  have hsame (i : Nat) :
      Answers.IsDropped (os ++ [some r']) i ↔ Answers.IsDropped os i := by
    simp [Answers.isDropped_concat]
  have hdropped := (h.dropped_concat r).mono hsame fun _ _ _ h => h
  have hknown : (found.usable.any fun a => a.uri == r'.uri) = true ↔
      ∃ r : Repository, some r ∈ os ∧ r.uri = r'.uri := by
    rw [← h.uri_mem_iff, List.any_eq_true, List.mem_map]
    simp
  unfold Download.takeUp
  dsimp only
  by_cases hrepeated : (found.usable.any fun a => a.uri == r'.uri) = true
  · rw [if_pos hrepeated]
    refine ⟨(h.usable_concat _).mono (fun i => ?_) fun _ _ _ h => h, hdropped, h.distinct⟩
    obtain ⟨r'', hr'', huri⟩ := hknown.1 hrepeated
    rw [Answers.isUsed_concat, or_iff_left]
    rintro ⟨-, r₀, hr₀, hnew⟩
    cases hr₀
    exact hnew r'' hr'' huri
  · rw [if_neg hrepeated]
    rw [hknown] at hrepeated
    push Not at hrepeated
    refine ⟨(h.usable_concat _).concat (n := os.length) (fun i hi => hi.lt) (fun i => ?_) ?_,
      hdropped, ?_⟩
    · rw [Answers.isUsed_concat, or_congr_right (and_iff_left ⟨r', rfl, hrepeated⟩)]
    · exact ⟨r', by simp, rfl⟩
    · rw [List.map_append, List.nodup_append]
      refine ⟨h.distinct, by simp, fun uri huri uri' huri' => ?_⟩
      obtain ⟨r'', hr'', rfl⟩ := (h.uri_mem_iff uri).1 huri
      simp only [List.map_cons, List.map_nil, List.mem_singleton, Access.uri,
        repository_access] at huri'
      exact huri' ▸ hrepeated r'' hr''

end Records

variable {c : Configuration} {s : Session}

theorem addCandidate_apply (found : Candidates) (r : Repository) (s : Session) :
    addCandidate c found r s = (takeUp found r (normalize c r s).1, (normalize c r s).2) := by
  refine Prod.ext ?_ (addCandidate_session found r s)
  unfold addCandidate takeUp
  rw [bind_apply]
  cases (normalize c r s).1 with
  | none => rfl
  | some r' =>
      dsimp only
      split <;> rfl

theorem mapM_concat_apply {β : Type} (f : α → Run β) (as : List α) (a : α) (s : Session) :
    (as ++ [a]).mapM f s =
      ((as.mapM f s).1 ++ [(f a (as.mapM f s).2).1], (f a (as.mapM f s).2).2) := by
  rw [List.mapM_append, List.mapM_cons, List.mapM_nil]
  rfl

theorem forall₂_mapM_normalize (rs : List Repository) (s : Session) :
    List.Forall₂ (fun r answer => answer = none ∨ answer = some r.canonical) rs
      (rs.mapM (normalize c) s).1 := by
  induction rs generalizing s with
  | nil => exact .nil
  | cons r rs ih =>
      obtain ⟨usable, -, hanswer⟩ := normalize_isAnswered c r s
      rw [mapM_cons_apply, hanswer]
      refine .cons ?_ (ih _)
      cases usable with
      | false => exact .inl rfl
      | true => exact .inr rfl

theorem records_foldlM (rs : List Repository) (s : Session) :
    Records rs (rs.mapM (normalize c) s).1 (rs.foldlM (addCandidate c) {} s).1 := by
  induction rs using List.reverseRecOn with
  | nil => exact .nil
  | append_singleton rs r ih =>
      rw [List.foldlM_append, bind_apply, mapM_concat_apply, List.foldlM_cons, bind_apply,
        addCandidate_apply, candidates_session]
      cases (normalize c r (rs.mapM (normalize c) s).2).1 with
      | none => exact ih.takeUp_none (forall₂_mapM_normalize rs s).length_eq r
      | some r' => exact ih.takeUp_some r r'

/-- No supplied repository is lost, and none is used twice. They are normalized in the order local,
preferred, others. In this order the candidates are the canonical forms of those that are the first
to be answered for their URI, so their URIs differ; those that can not be used are told of in the
same order, once each; and each supplied repository is used, repeats one that is used before it, or
is dropped. -/
theorem candidates_account_for_all (c : Configuration) (preferred : Option Repository)
    (rs : List Repository) (s : Session) :
    let supplied := c.localRepository.toList ++ preferred.toList ++ rs
    let answers : Answers := (supplied.mapM (normalize c) s).1
    let found := (candidates c preferred rs s).1
    List.Forall₂ (fun r answer => answer = none ∨ answer = some { r with uri := r.canonicalUri })
      supplied answers ∧
    (found.usable.map Access.uri).Nodup ∧
    Enumerates answers.IsUsed (fun i a => ∃ r, answers[i]? = some (some r) ∧ a = r.access)
      found.usable ∧
    Enumerates answers.IsDropped
      (fun i attempt => ∃ r, supplied[i]? = some r ∧ attempt = ⟨trim r.uri, unusable⟩)
      found.dropped ∧
    ∀ i < supplied.length,
      (answers.IsUsed i ∨ answers.IsRepeated i ∨ answers.IsDropped i) ∧
        ¬(answers.IsUsed i ∧ answers.IsRepeated i) ∧ ¬(answers.IsUsed i ∧ answers.IsDropped i) ∧
        ¬(answers.IsRepeated i ∧ answers.IsDropped i) := by
  intro supplied answers found
  have hanswers := forall₂_mapM_normalize (c := c) supplied s
  have hrecords : Records supplied answers found := records_foldlM supplied s
  exact ⟨hanswers, hrecords.distinct, hrecords.usable, hrecords.dropped,
    fun i hi => Answers.fate (hanswers.length_eq ▸ hi)⟩

end Depot.Download
