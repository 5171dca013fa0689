import Depot.Metadata
import Mathlib.Data.List.Induction

/-!
What merged metadata says about the builds of a snapshot. Of the entries for a file the last of the
greatest is chosen; merging keeps the entries of all documents and the newest of their builds.
-/

namespace Depot.Metadata

open Text

variable {newest : Option String} {a b c e f : SnapshotFile} {l : List SnapshotFile}

theorem notLater_iff {s t : Option String} :
    notLater s t ↔ s = none ∨ ∃ x y, s = some x ∧ t = some y ∧ x ≤ y := by
  cases s with
  | none => simp [notLater]
  | some x =>
      cases t with
      | none => simp [notLater]
      | some y =>
          rw [notLater, Bool.not_eq_true', decide_eq_false_iff_not, String.not_lt]
          constructor
          · intro h
            exact .inr ⟨x, y, rfl, rfl, h⟩
          · rintro (hnone | ⟨x', y', hx, hy, h⟩)
            · cases hnone
            · cases hx
              cases hy
              exact h

theorem notLater_trans {s t u : Option String} (hst : notLater s t) (htu : notLater t u) :
    notLater s u := by
  rw [notLater_iff] at hst htu ⊢
  obtain rfl | ⟨x, y, rfl, rfl, hxy⟩ := hst
  · exact .inl rfl
  · obtain hnone | ⟨y', z, hy, rfl, hyz⟩ := htu
    · cases hnone
    · cases hy
      exact .inr ⟨x, z, rfl, rfl, String.le_trans hxy hyz⟩

theorem notLater_antisymm {s t : Option String} (hst : notLater s t) (hts : notLater t s) :
    s = t := by
  rw [notLater_iff] at hst hts
  obtain rfl | ⟨x, y, rfl, rfl, hxy⟩ := hst
  · obtain rfl | ⟨x, y, -, hnone, -⟩ := hts
    · rfl
    · cases hnone
  · obtain hnone | ⟨y', x', hy, hx, hyx⟩ := hts
    · cases hnone
    · cases hy
      cases hx
      rw [String.le_antisymm hxy hyx]

theorem notLater_total (s t : Option String) : notLater s t ∨ notLater t s := by
  cases s with
  | none => exact .inl rfl
  | some x =>
      cases t with
      | none => exact .inr rfl
      | some y =>
          rcases String.le_total x y with h | h
          · exact .inl (notLater_iff.2 (.inr ⟨x, y, rfl, rfl, h⟩))
          · exact .inr (notLater_iff.2 (.inr ⟨y, x, rfl, rfl, h⟩))

theorem yields_iff : yields newest a b ↔
    (a.updated = b.updated ∧ (some a.value = newest → some b.value = newest)) ∨
      (a.updated ≠ b.updated ∧ notLater a.updated b.updated) := by
  unfold yields
  split
  · rename_i h
    simp [h, imp_iff_not_or]
  · rename_i h
    simp [h]

theorem notLater_of_yields (h : yields newest a b) : notLater a.updated b.updated := by
  rw [yields_iff] at h
  obtain ⟨heq, -⟩ | ⟨-, hle⟩ := h
  · rw [heq]
    exact or_self_iff.1 (notLater_total _ _)
  · exact hle

theorem yields_trans (hab : yields newest a b) (hbc : yields newest b c) : yields newest a c := by
  have hle := notLater_trans (notLater_of_yields hab) (notLater_of_yields hbc)
  by_cases hac : a.updated = c.updated
  · -- All three are equally old, so agreement with the newest build decides.
    have hba : b.updated = a.updated :=
      notLater_antisymm (hac ▸ notLater_of_yields hbc) (notLater_of_yields hab)
    rw [yields_iff] at hab hbc ⊢
    obtain ⟨-, hab⟩ | ⟨hne, -⟩ := hab
    · obtain ⟨-, hbc⟩ | ⟨hne, -⟩ := hbc
      · exact .inl ⟨hac, fun h => hbc (hab h)⟩
      · exact absurd (hba.trans hac) hne
    · exact absurd hba.symm hne
  · exact yields_iff.2 (.inr ⟨hac, hle⟩)

theorem yields_total (newest : Option String) (a b : SnapshotFile) :
    yields newest a b ∨ yields newest b a := by
  rw [yields_iff, yields_iff]
  by_cases h : a.updated = b.updated
  · by_cases ha : some a.value = newest
    · exact .inr (.inl ⟨h.symm, fun _ => ha⟩)
    · exact .inl (.inl ⟨h, fun h' => absurd h' ha⟩)
  · rcases notLater_total a.updated b.updated with hle | hle
    · exact .inl (.inr ⟨h, hle⟩)
    · exact .inr (.inr ⟨Ne.symm h, hle⟩)

/-- The last of the entries that all others yield to. -/
def IsChoice (newest : Option String) (l : List SnapshotFile) (e : SnapshotFile) : Prop :=
  ∃ before after, l = before ++ e :: after ∧ (∀ x ∈ before, yields newest x e) ∧
    ∀ x ∈ after, yields newest e x = false

theorem IsChoice.mem (h : IsChoice newest l e) : e ∈ l := by
  obtain ⟨before, after, rfl, -, -⟩ := h
  simp

theorem IsChoice.yields (h : IsChoice newest l e) (hf : f ∈ l) : yields newest f e := by
  obtain ⟨before, after, rfl, hbefore, hafter⟩ := h
  have htotal := yields_total newest f e
  rcases List.mem_append.1 hf with hf | hf
  · exact hbefore f hf
  · rcases List.mem_cons.1 hf with rfl | hf
    · exact or_self_iff.1 htotal
    · exact htotal.resolve_right (by simp [hafter f hf])

/-- Of two choices neither comes after the other: the later one would not yield to the earlier. -/
theorem eq_of_cons_eq_append {mid after after' : List SnapshotFile}
    (h : e :: after = mid ++ f :: after') (hmid : ∀ x ∈ mid, yields newest x f)
    (hafter : ∀ x ∈ after, yields newest e x = false) : e = f := by
  cases mid with
  | nil =>
      rw [List.nil_append, List.cons.injEq] at h
      exact h.1
  | cons x mid =>
      rw [List.cons_append, List.cons.injEq] at h
      obtain ⟨rfl, rfl⟩ := h
      have hyields := hmid e List.mem_cons_self
      rw [hafter f (by simp)] at hyields
      cases hyields

theorem IsChoice.unique (he : IsChoice newest l e) (hf : IsChoice newest l f) : e = f := by
  obtain ⟨before, after, rfl, hbefore, hafter⟩ := he
  obtain ⟨before', after', heq, hbefore', hafter'⟩ := hf
  rcases List.append_eq_append_iff.1 heq with ⟨mid, rfl, hmid⟩ | ⟨mid, rfl, hmid⟩
  · exact eq_of_cons_eq_append hmid (fun x hx => hbefore' x (List.mem_append_right _ hx)) hafter
  · exact (eq_of_cons_eq_append hmid (fun x hx => hbefore x (List.mem_append_right _ hx))
      hafter').symm

theorem exists_isChoice (newest : Option String) (hl : l ≠ []) :
    ∃ e, l.foldl (fun best f => some (preferred newest best f)) none = some e ∧
      IsChoice newest l e := by
  induction l using List.reverseRecOn with
  | nil => exact absurd rfl hl
  | append_singleton l f ih =>
      rw [List.foldl_append, List.foldl_cons, List.foldl_nil]
      by_cases hempty : l = []
      · subst hempty
        exact ⟨f, rfl, [], [], rfl, by simp, by simp⟩
      · obtain ⟨e, he, hchoice⟩ := ih hempty
        rw [he]
        by_cases hyields : yields newest e f
        · refine ⟨f, by simp [preferred, hyields], l, [], rfl, fun x hx => ?_, by simp⟩
          exact yields_trans (hchoice.yields hx) hyields
        · obtain ⟨before, after, rfl, hbefore, hafter⟩ := hchoice
          refine ⟨e, by simp [preferred, hyields], before, after ++ [f], by simp, hbefore, ?_⟩
          intro x hx
          rcases List.mem_append.1 hx with hx | hx
          · exact hafter x hx
          · rw [List.mem_singleton.1 hx]
            exact Bool.not_eq_true _ ▸ hyields

/-- The entries for a file. -/
def listed (m : Metadata) (extension : String) (classifier : Option String) : List SnapshotFile :=
  m.snapshotFiles.filter fun f => f.extension == extension && f.classifier == classifier

variable {m : Metadata} {version : Version} {extension : String} {classifier : Option String}

theorem fileVersion?_of_isChoice
    (h : IsChoice (m.buildVersion? version) (m.listed extension classifier) e) :
    m.fileVersion? version extension classifier = some e.value := by
  obtain ⟨e', he', hchoice⟩ := exists_isChoice (m.buildVersion? version) (List.ne_nil_of_mem h.mem)
  unfold listed at he'
  rw [fileVersion?, he', hchoice.unique h]

theorem fileVersion?_of_unlisted (h : m.listed extension classifier = []) :
    m.fileVersion? version extension classifier = m.buildVersion? version := by
  unfold listed at h
  rw [fileVersion?, h]
  rfl

/-- Documents folded from left to right. -/
def mergeAll (first : Metadata) (rest : List Metadata) : Metadata := rest.foldl merge first

variable {first : Metadata} {rest : List Metadata}

theorem mem_addFiles {files more : List SnapshotFile} :
    f ∈ addFiles files more ↔ f ∈ files ∨ f ∈ more := by
  unfold addFiles
  induction more generalizing files with
  | nil => simp
  | cons g more ih =>
      rw [List.foldl_cons, ih, List.mem_cons]
      split
      · rename_i hg
        have hg : g ∈ files := by simpa using hg
        constructor
        · rintro (h | h)
          · exact .inl h
          · exact .inr (.inr h)
        · rintro (h | rfl | h)
          · exact .inl h
          · exact .inl hg
          · exact .inr h
      · rw [List.mem_append, List.mem_singleton, or_assoc]

theorem mem_snapshotFiles_mergeAll :
    f ∈ (mergeAll first rest).snapshotFiles ↔ ∃ d ∈ first :: rest, f ∈ d.snapshotFiles := by
  induction rest generalizing first with
  | nil => simp [mergeAll]
  | cons d rest ih =>
      rw [mergeAll, List.foldl_cons, ← mergeAll, ih]
      simp only [List.mem_cons, exists_eq_or_imp, merge, mem_addFiles, or_assoc]

theorem mem_listed_mergeAll : f ∈ (mergeAll first rest).listed extension classifier ↔
    ∃ d ∈ first :: rest, f ∈ d.listed extension classifier := by
  simp only [listed, List.mem_filter, mem_snapshotFiles_mergeAll]
  constructor
  · rintro ⟨⟨d, hd, hf⟩, hmatch⟩
    exact ⟨d, hd, hf, hmatch⟩
  · rintro ⟨d, hd, hf, hmatch⟩
    exact ⟨⟨d, hd, hf⟩, hmatch⟩

theorem listed_mergeAll_eq_nil : (mergeAll first rest).listed extension classifier = [] ↔
    ∀ d ∈ first :: rest, d.listed extension classifier = [] := by
  rw [List.eq_nil_iff_forall_not_mem]
  constructor
  · intro h d hd
    rw [List.eq_nil_iff_forall_not_mem]
    intro f hf
    exact h f (mem_listed_mergeAll.2 ⟨d, hd, hf⟩)
  · intro h f hf
    obtain ⟨d, hd, hf⟩ := mem_listed_mergeAll.1 hf
    rw [h d hd] at hf
    cases hf

/-- Of two builds one is kept, and it is as late as both. -/
theorem laterBuild_spec (x y : Option SnapshotBuild) :
    (∀ b, laterBuild x y = some b → x = some b ∨ y = some b) ∧
      ∀ b, x = some b ∨ y = some b →
        ∃ b', laterBuild x y = some b' ∧ b.timestamp ≤ b'.timestamp := by
  cases x with
  | none =>
      cases y with
      | none => simp [laterBuild]
      | some y => simp [laterBuild]
  | some x =>
      cases y with
      | none => simp [laterBuild]
      | some y =>
          by_cases hlt : x.timestamp < y.timestamp
          · have hle : x.timestamp ≤ y.timestamp := String.lt_asymm hlt
            refine ⟨by simp [laterBuild, hlt], ?_⟩
            rintro b (hb | hb)
            · cases hb
              exact ⟨y, if_pos hlt, hle⟩
            · cases hb
              exact ⟨y, if_pos hlt, String.le_refl _⟩
          · refine ⟨by simp [laterBuild, hlt], ?_⟩
            rintro b (hb | hb)
            · cases hb
              exact ⟨x, if_neg hlt, String.le_refl _⟩
            · cases hb
              exact ⟨x, if_neg hlt, hlt⟩

theorem snapshot_mergeAll_mem {b : SnapshotBuild} (h : (mergeAll first rest).snapshot = some b) :
    ∃ d ∈ first :: rest, d.snapshot = some b := by
  induction rest generalizing first with
  | nil => exact ⟨first, List.mem_cons_self, h⟩
  | cons d rest ih =>
      obtain ⟨d', hd', hb⟩ := ih h
      rcases List.mem_cons.1 hd' with rfl | hd'
      · rcases (laterBuild_spec _ _).1 b hb with hb | hb
        · exact ⟨first, by simp, hb⟩
        · exact ⟨d, by simp, hb⟩
      · exact ⟨d', by simp [hd'], hb⟩

theorem le_snapshot_mergeAll {d : Metadata} (hd : d ∈ first :: rest) {b : SnapshotBuild}
    (hb : d.snapshot = some b) :
    ∃ b', (mergeAll first rest).snapshot = some b' ∧ b.timestamp ≤ b'.timestamp := by
  induction rest generalizing first d b with
  | nil =>
      rw [List.mem_singleton.1 hd] at hb
      exact ⟨b, hb, String.le_refl _⟩
  | cons e rest ih =>
      have hmerged (hmem : d = first ∨ d = e) :
          ∃ b', (mergeAll (first.merge e) rest).snapshot = some b' ∧
            b.timestamp ≤ b'.timestamp := by
        obtain ⟨b', hb', hle⟩ := (laterBuild_spec first.snapshot e.snapshot).2 b
          (by rcases hmem with rfl | rfl <;> simp [hb])
        obtain ⟨b'', hb'', hle'⟩ := ih List.mem_cons_self (d := first.merge e) hb'
        exact ⟨b'', hb'', String.le_trans hle hle'⟩
      rcases List.mem_cons.1 hd with rfl | hd
      · exact hmerged (.inl rfl)
      · rcases List.mem_cons.1 hd with rfl | hd
        · exact hmerged (.inr rfl)
        · exact ih (List.mem_cons_of_mem _ hd) hb

end Depot.Metadata
