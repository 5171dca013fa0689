import Depot.Proofs.MergeAlgebra

/-!
What the order of documents means for the file of a snapshot that is asked for. It means nothing as
long as the documents tell clearly which entry and which build is the newest. A document that tells
of nothing newer changes nothing when it comes later, unless it lists an entry of the very same
time.
-/

namespace Depot.Metadata

variable {newest newest' : Option String} {e f : SnapshotFile} {l l' : List SnapshotFile}

/-- Not older than any of these entries. -/
def IsLatest (l : List SnapshotFile) (f : SnapshotFile) : Prop := ∀ x ∈ l, notLater x.updated f.updated

theorem IsChoice.isLatest (h : IsChoice newest l e) : IsLatest l e :=
  fun _ hx => notLater_of_yields (h.yields hx)

theorem IsLatest.updated_eq (he : IsLatest l e) (hf : IsLatest l' f) (hel : e ∈ l')
    (hfl : f ∈ l) : e.updated = f.updated :=
  notLater_antisymm (hf e hel) (he f hfl)

/-- Of the latest entries one that agrees with the newest build is chosen, if there is any. -/
theorem IsChoice.value_eq (h : IsChoice newest l e) (hf : f ∈ l) (hlatest : IsLatest l f)
    (hagrees : some f.value = newest) : some e.value = newest := by
  have hsame := hlatest.updated_eq h.isLatest hf h.mem
  rcases yields_iff.1 (h.yields hf) with ⟨-, himp⟩ | ⟨hne, -⟩
  · exact himp hagrees
  · exact absurd hsame hne

/-- What is chosen from two lists is chosen from the first one, or it is in the second one. -/
theorem IsChoice.of_append (h : IsChoice newest (l ++ l') e) : IsChoice newest l e ∨ e ∈ l' := by
  obtain ⟨before, after, heq, hbefore, hafter⟩ := h
  rcases List.append_eq_append_iff.1 heq with ⟨mid, rfl, rfl⟩ | ⟨mid, rfl, hmid⟩
  · exact .inr (by simp)
  · cases mid with
    | nil =>
        rw [List.nil_append] at hmid
        exact .inr (hmid ▸ List.mem_cons_self)
    | cons x mid =>
        rw [List.cons_append, List.cons.injEq] at hmid
        obtain ⟨rfl, rfl⟩ := hmid
        exact .inl ⟨before, mid, rfl, hbefore, fun y hy => hafter y (List.mem_append_left _ hy)⟩

variable {version : Version} {extension : String} {classifier : Option String}

section Permutation

variable {first first' : Metadata} {rest rest' : List Metadata}

/-- Entries for the file that differ were updated at different times, and builds of the same time
have the same number. -/
structure IsClear (documents : List Metadata) (extension : String) (classifier : Option String) :
    Prop where
  entries : ∀ d ∈ documents, ∀ d' ∈ documents, ∀ e ∈ d.listed extension classifier,
    ∀ f ∈ d'.listed extension classifier, e ≠ f → e.updated ≠ f.updated
  builds : ∀ d ∈ documents, ∀ d' ∈ documents, ∀ b b', d.snapshot = some b →
    d'.snapshot = some b' → b.timestamp = b'.timestamp → b.number = b'.number

theorem IsClear.eq_of_updated_eq (h : IsClear (first :: rest) extension classifier)
    (he : e ∈ (mergeAll first rest).listed extension classifier)
    (hf : f ∈ (mergeAll first rest).listed extension classifier) (hsame : e.updated = f.updated) :
    e = f := by
  obtain ⟨d, hd, hed⟩ := mem_listed_mergeAll.1 he
  obtain ⟨d', hd', hfd'⟩ := mem_listed_mergeAll.1 hf
  by_contra hne
  exact h.entries d hd d' hd' e hed f hfd' hne hsame

/-- If there is an entry that is as late as all others, it is the one that is asked for. -/
theorem IsClear.fileVersion?_eq (h : IsClear (first :: rest) extension classifier)
    (he : e ∈ (mergeAll first rest).listed extension classifier)
    (hlatest : IsLatest ((mergeAll first rest).listed extension classifier) e) :
    (mergeAll first rest).fileVersion? version extension classifier = some e.value := by
  obtain ⟨f, -, hf⟩ :=
    exists_isChoice ((mergeAll first rest).buildVersion? version) (List.ne_nil_of_mem he)
  rw [fileVersion?_of_isChoice hf,
    h.eq_of_updated_eq hf.mem he (hf.isLatest.updated_eq hlatest hf.mem he)]

theorem IsClear.snapshot_eq_of_le (h : IsClear (first :: rest) extension classifier)
    (hmem : ∀ d, d ∈ first :: rest ↔ d ∈ first' :: rest') {b : SnapshotBuild}
    (hb : (mergeAll first rest).snapshot = some b) :
    (mergeAll first' rest').snapshot = some b := by
  -- Each of the two is the build of some document, and so it is not later than the other one.
  obtain ⟨d, hd, hdb⟩ := snapshot_mergeAll_mem hb
  obtain ⟨b', hb', hle⟩ := le_snapshot_mergeAll ((hmem d).1 hd) hdb
  obtain ⟨d', hd', hdb'⟩ := snapshot_mergeAll_mem hb'
  obtain ⟨b'', hb'', hle'⟩ := le_snapshot_mergeAll ((hmem d').2 hd') hdb'
  rw [hb, Option.some.injEq] at hb''
  subst hb''
  have htime := String.le_antisymm hle hle'
  have hnumber := h.builds d hd d' ((hmem d').2 hd') b b' hdb hdb' htime
  cases b
  cases b'
  cases htime
  cases hnumber
  exact hb'

theorem IsClear.congr (h : IsClear (first :: rest) extension classifier)
    (hmem : ∀ d, d ∈ first :: rest ↔ d ∈ first' :: rest') :
    IsClear (first' :: rest') extension classifier where
  entries d hd d' hd' := h.entries d ((hmem d).2 hd) d' ((hmem d').2 hd')
  builds d hd d' hd' := h.builds d ((hmem d).2 hd) d' ((hmem d').2 hd')

theorem IsClear.buildVersion?_eq (h : IsClear (first :: rest) extension classifier)
    (hmem : ∀ d, d ∈ first :: rest ↔ d ∈ first' :: rest') :
    (mergeAll first rest).buildVersion? version = (mergeAll first' rest').buildVersion? version := by
  have hsnapshot : (mergeAll first rest).snapshot = (mergeAll first' rest').snapshot := by
    refine Option.ext fun b => ⟨h.snapshot_eq_of_le hmem, ?_⟩
    exact (h.congr hmem).snapshot_eq_of_le fun d => (hmem d).symm
  rw [buildVersion?, hsnapshot]
  rfl

/-- If the documents are clear about what is the newest, their order does not matter: asked for is
the entry that was updated last, whichever document lists it, and without entries the newest of the
builds. -/
theorem fileVersion?_mergeAll_of_perm (hperm : (first :: rest).Perm (first' :: rest'))
    (h : IsClear (first :: rest) extension classifier) (version : Version) :
    (mergeAll first rest).fileVersion? version extension classifier =
        (mergeAll first' rest').fileVersion? version extension classifier ∧
      ∀ d ∈ first :: rest, ∀ e ∈ d.listed extension classifier,
        (∀ d' ∈ first :: rest, IsLatest (d'.listed extension classifier) e) →
          (mergeAll first rest).fileVersion? version extension classifier = some e.value := by
  have hmem : ∀ d, d ∈ first :: rest ↔ d ∈ first' :: rest' := fun _ => hperm.mem_iff
  have hlisted : ∀ f, f ∈ (mergeAll first rest).listed extension classifier ↔
      f ∈ (mergeAll first' rest').listed extension classifier := by
    intro f
    simp only [mem_listed_mergeAll, hmem]
  constructor
  · by_cases hnone : (mergeAll first rest).listed extension classifier = []
    · have hnone' : (mergeAll first' rest').listed extension classifier = [] := by
        rw [listed_mergeAll_eq_nil] at hnone ⊢
        exact fun d hd => hnone d ((hmem d).2 hd)
      rw [fileVersion?_of_unlisted hnone, fileVersion?_of_unlisted hnone', h.buildVersion?_eq hmem]
    · obtain ⟨e, -, he⟩ := exists_isChoice ((mergeAll first rest).buildVersion? version) hnone
      rw [fileVersion?_of_isChoice he, (h.congr hmem).fileVersion?_eq ((hlisted e).1 he.mem)]
      exact fun f hf => he.isLatest f ((hlisted f).2 hf)
  · intro d hd e he hlatest
    refine h.fileVersion?_eq (mem_listed_mergeAll.2 ⟨d, hd, he⟩) fun f hf => ?_
    obtain ⟨d', hd', hfd'⟩ := mem_listed_mergeAll.1 hf
    exact hlatest d' hd' f hfd'

/-- Two documents with entries of their own, and one that tells of a newer build alone. -/
theorem fileVersion?_mergeAll_of_reverse :
    let a : Metadata :=
      { group := "g", artifact := "a", snapshot := some ⟨"20210115.042754", some 180⟩,
        snapshotFiles := [⟨none, "pom", "1.0-20210115.042754-180", some "20210115042754"⟩] }
    let b : Metadata :=
      { group := "g", artifact := "a",
        snapshotFiles := [⟨none, "pom", "1.0-20220201.001946-85", some "20220201001946"⟩] }
    let c : Metadata :=
      { group := "g", artifact := "a", snapshot := some ⟨"20220927.033510", some 223⟩ }
    (mergeAll a [b, c]).fileVersion? (.snapshot "1.0") "pom" none =
        (mergeAll c [b, a]).fileVersion? (.snapshot "1.0") "pom" none ∧
      (mergeAll a [b, c]).fileVersion? (.snapshot "1.0") "pom" none =
        some "1.0-20220201.001946-85" := by
  intro a b c
  have hclear : IsClear [a, b, c] "pom" none := by
    refine ⟨by decide, ?_⟩
    simp [a, b, c]
  obtain ⟨hsame, hlatest⟩ :=
    fileVersion?_mergeAll_of_perm (List.reverse_perm [c, b, a]) hclear (.snapshot "1.0")
  refine ⟨hsame, hlatest b (by simp) _ List.mem_cons_self ?_⟩
  simp only [IsLatest]
  decide

end Permutation

section Precedence

variable {a b : Metadata}

/-- What is appended comes from the second list and is not in the first one. -/
theorem exists_appendNew_eq {α : Type} [BEq α] [LawfulBEq α] (xs ys : List α) :
    ∃ new, appendNew xs ys = xs ++ new ∧ ∀ x ∈ new, x ∈ ys ∧ x ∉ xs := by
  induction ys using List.reverseRecOn with
  | nil => exact ⟨[], by simp [appendNew], nofun⟩
  | append_singleton ys y ih =>
      obtain ⟨new, hnew, hall⟩ := ih
      have hall' : ∀ x ∈ new, x ∈ ys ++ [y] ∧ x ∉ xs := fun x hx =>
        ⟨List.mem_append_left _ (hall x hx).1, (hall x hx).2⟩
      rw [appendNew_append, hnew]
      by_cases hy : y ∈ xs ++ new
      · refine ⟨new, ?_, hall'⟩
        rw [appendNew_cons_of_mem hy]
        rfl
      · refine ⟨new ++ [y], ?_, fun x hx => ?_⟩
        · rw [appendNew_cons_of_notMem hy, List.append_assoc]
          rfl
        · rcases List.mem_append.1 hx with hx | hx
          · exact hall' x hx
          · rw [List.mem_singleton.1 hx]
            exact ⟨by simp, fun hmem => hy (List.mem_append_left _ hmem)⟩

/-- The entries of the preferred document come first. -/
theorem exists_listed_merge_eq (a b : Metadata) (extension : String)
    (classifier : Option String) :
    ∃ new, (a.merge b).listed extension classifier = a.listed extension classifier ++ new ∧
      ∀ f ∈ new, f ∈ b.listed extension classifier ∧ f ∉ a.listed extension classifier := by
  obtain ⟨new, hnew, hall⟩ := exists_appendNew_eq a.snapshotFiles b.snapshotFiles
  have hfiles : (a.merge b).snapshotFiles = a.snapshotFiles ++ new := hnew
  refine ⟨new.filter fun f => f.extension == extension && f.classifier == classifier, ?_, ?_⟩
  · rw [listed, hfiles, List.filter_append]
    rfl
  · intro f hf
    rw [List.mem_filter] at hf
    refine ⟨List.mem_filter.2 ⟨(hall f hf.1).1, hf.2⟩, fun hmem => ?_⟩
    exact (hall f hf.1).2 (List.mem_filter.1 hmem).1

theorem mem_listed_merge : f ∈ (a.merge b).listed extension classifier ↔
    f ∈ a.listed extension classifier ∨ f ∈ b.listed extension classifier := by
  have h : f ∈ (mergeAll a [b]).listed extension classifier ↔
      ∃ d ∈ [a, b], f ∈ d.listed extension classifier := mem_listed_mergeAll
  simpa [mergeAll] using h

/-- The second document tells of no newer build. -/
def TellsOfNoNewerBuild (a b : Metadata) : Prop :=
  ∀ y, b.snapshot = some y → ∃ x, a.snapshot = some x ∧ y.timestamp ≤ x.timestamp

theorem buildVersion?_merge (h : TellsOfNoNewerBuild a b) :
    (a.merge b).buildVersion? version = a.buildVersion? version := by
  have hsnapshot : (a.merge b).snapshot = a.snapshot := by
    rw [merge]
    cases hb : b.snapshot with
    | none => cases a.snapshot <;> rfl
    | some y =>
        obtain ⟨x, hx, hle⟩ := h y hb
        rw [hx]
        exact if_neg hle
  rw [buildVersion?, hsnapshot]
  rfl

/-- An entry of the second document that is as late as the first document's own counts as the first
document's answer if it is one of its entries or has the value that is asked for anyway. -/
theorem fileVersion?_merge_of_no_rival (hbuild : TellsOfNoNewerBuild a b)
    (h : ∀ f ∈ b.listed extension classifier, IsLatest (a.listed extension classifier) f →
      f ∈ a.listed extension classifier ∨
        some f.value = a.fileVersion? version extension classifier) :
    (a.merge b).fileVersion? version extension classifier =
      a.fileVersion? version extension classifier := by
  obtain ⟨new, hlisted, hnew⟩ := exists_listed_merge_eq a b extension classifier
  by_cases hnone : (a.merge b).listed extension classifier = []
  · have hnone' : a.listed extension classifier = [] := by
      rw [hlisted, List.append_eq_nil_iff] at hnone
      exact hnone.1
    rw [fileVersion?_of_unlisted hnone, fileVersion?_of_unlisted hnone',
      buildVersion?_merge hbuild]
  · obtain ⟨e, -, he⟩ := exists_isChoice ((a.merge b).buildVersion? version) hnone
    rw [fileVersion?_of_isChoice he]
    rw [buildVersion?_merge hbuild, hlisted] at he
    rcases he.of_append with hown | hmem
    · rw [fileVersion?_of_isChoice hown]
    · have hlatest : IsLatest (a.listed extension classifier) e :=
        fun x hx => he.isLatest x (List.mem_append_left _ hx)
      exact (h e (hnew e hmem).1 hlatest).resolve_left (hnew e hmem).2

/-- One of the latest entries agrees with the newest build: it is asked for. -/
theorem fileVersion?_of_agrees {m : Metadata} (hf : f ∈ m.listed extension classifier)
    (hlatest : IsLatest (m.listed extension classifier) f)
    (hagrees : some f.value = m.buildVersion? version) :
    m.fileVersion? version extension classifier = m.buildVersion? version := by
  obtain ⟨e, -, he⟩ := exists_isChoice (m.buildVersion? version) (List.ne_nil_of_mem hf)
  rw [fileVersion?_of_isChoice he]
  exact he.value_eq hf hlatest hagrees

/-- A less preferred document that tells of nothing newer: asked for is what would be asked for
without it, if its entries are older, known or of no other value. Among entries of the same time one
that agrees with the newest build is asked for, whichever document lists it. -/
theorem fileVersion?_merge_of_nothing_newer (he : e ∈ a.listed extension classifier)
    (hentries : ∀ f ∈ b.listed extension classifier, notLater f.updated e.updated)
    (hbuild : TellsOfNoNewerBuild a b) (version : Version) :
    let own := a.fileVersion? version extension classifier
    let merged := (a.merge b).fileVersion? version extension classifier
    let build := a.buildVersion? version
    let IsTied := IsLatest (a.listed extension classifier)
    ((∀ f ∈ b.listed extension classifier, IsTied f →
        f ∈ a.listed extension classifier ∨ some f.value = own) → merged = own) ∧
      (∀ f ∈ a.listed extension classifier, IsTied f → some f.value = build → merged = own) ∧
      ∀ f ∈ b.listed extension classifier, IsTied f → some f.value = build → merged = build := by
  intro own merged build IsTied
  have hlatest {f : SnapshotFile} (hf : IsTied f) :
      IsLatest ((a.merge b).listed extension classifier) f := by
    intro x hx
    rcases mem_listed_merge.1 hx with hx | hx
    · exact hf x hx
    · exact notLater_trans (hentries x hx) (hf e he)
  have hmerged {f : SnapshotFile} (hf : f ∈ (a.merge b).listed extension classifier)
      (htied : IsTied f) (hagrees : some f.value = build) : merged = build := by
    have hbuilds : (a.merge b).buildVersion? version = build := buildVersion?_merge hbuild
    exact (fileVersion?_of_agrees hf (hlatest htied) (hagrees.trans hbuilds.symm)).trans hbuilds
  refine ⟨fileVersion?_merge_of_no_rival hbuild, fun f hf htied hagrees => ?_,
    fun f hf => hmerged (mem_listed_merge.2 (.inr hf))⟩
  rw [hmerged (mem_listed_merge.2 (.inl hf)) htied hagrees]
  exact (fileVersion?_of_agrees hf htied hagrees).symm

/-- An older entry and a repeated one, and an older build. -/
theorem fileVersion?_merge_of_older_entries :
    let e : SnapshotFile := ⟨none, "pom", "1.0-20220927.033510-223", some "20220927033510"⟩
    let a : Metadata :=
      { group := "g", artifact := "a", snapshot := some ⟨"20220927.033510", some 224⟩,
        snapshotFiles := [e] }
    let b : Metadata :=
      { group := "g", artifact := "a", snapshot := some ⟨"20210115.042754", some 180⟩,
        snapshotFiles := [⟨none, "pom", "1.0-20210115.042754-180", none⟩, e] }
    e ∈ a.listed "pom" none ∧ (∀ f ∈ b.listed "pom" none, notLater f.updated e.updated) ∧
      TellsOfNoNewerBuild a b ∧
      (a.merge b).fileVersion? (.snapshot "1.0") "pom" none =
        a.fileVersion? (.snapshot "1.0") "pom" none := by
  intro e a b
  have he : e ∈ a.listed "pom" none := by decide
  have hentries : ∀ f ∈ b.listed "pom" none, notLater f.updated e.updated := by decide
  have hbuild : TellsOfNoNewerBuild a b := by
    rintro y ⟨⟩
    exact ⟨_, rfl, by decide⟩
  obtain ⟨hown, -, -⟩ := fileVersion?_merge_of_nothing_newer he hentries hbuild (.snapshot "1.0")
  refine ⟨he, hentries, hbuild, hown fun f hf htied => .inl ?_⟩
  rcases List.mem_cons.1 hf with rfl | hf
  · exact absurd (htied e he) (by decide)
  · exact List.mem_singleton.1 hf ▸ he

/-- Entries of the same time, of which only that of the second document agrees with the build that
the first document tells of. -/
theorem not_forall_fileVersion?_merge :
    ¬∀ (a b : Metadata) (version : Version) (extension : String) (classifier : Option String),
      ∀ e ∈ a.listed extension classifier,
        (∀ f ∈ b.listed extension classifier, notLater f.updated e.updated) →
          TellsOfNoNewerBuild a b →
            (a.merge b).fileVersion? version extension classifier =
              a.fileVersion? version extension classifier := by
  intro h
  have hsame := h
    { group := "g", artifact := "a", snapshot := some ⟨"20220927.033510", some 223⟩,
      snapshotFiles := [⟨none, "pom", "1.0-20220927.033510-222", some "20220927033510"⟩] }
    { group := "g", artifact := "a",
      snapshotFiles := [⟨none, "pom", "1.0-20220927.033510-223", some "20220927033510"⟩] }
    (.snapshot "1.0") "pom" none _ List.mem_cons_self (by decide) nofun
  exact absurd hsame (by decide +kernel)

end Precedence

end Depot.Metadata
