import Depot.Proofs.Locations
import Depot.Proofs.SnapshotChoice
import Depot.Proofs.VersionText

/-!
Whether a floating snapshot stands for the newest build that any document tells of. Entries of one
document and the newest build of another are not weighed against each other, so what is chosen can
be older than a build that is known.
-/

namespace Depot

open Text

/-- When the build was made that a file version names, if it names one. -/
def Version.buildTime? (text : Option String) : Option String :=
  text.bind fun s =>
    match ofString s with
    | build _ timestamp _ => some timestamp
    | _ => none

/-- The time that is read back from the text of a build is its own. -/
theorem Version.buildTime?_eq {base timestamp : String} {number : Nat} {t : String}
    (hdash : '-' ∉ timestamp.toList)
    (h : buildTime? (some (base ++ "-" ++ timestamp ++ "-" ++ Natural.write number)) = some t) :
    t = timestamp := by
  rw [buildTime?, Option.bind_some] at h
  split at h
  · rename_i base' timestamp' number' hbuild
    cases h
    unfold ofString at hbuild
    split at hbuild
    · cases hbuild
    · have hs : (base ++ "-" ++ timestamp ++ "-" ++ Natural.write number).toList =
          (base.toList ++ '-' :: timestamp.toList) ++ '-' :: (Natural.write number).toList := by
        simp
      cases hread : build? (base ++ "-" ++ timestamp ++ "-" ++ Natural.write number).toList with
      | none =>
          rw [hread] at hbuild
          cases hbuild
      | some v =>
          rw [hread] at hbuild
          obtain ⟨front, digits, base'', timestamp'', number'', hfront, hbase, rfl⟩ :=
            build?_eq_some hread
          rw [hs, splitLast_append (Natural.dash_notMem_write number)] at hfront
          cases hfront
          rw [splitLast_append hdash] at hbase
          cases hbase
          cases hbuild
          exact String.ofList_toList
  · cases h

namespace Metadata

/-- If both name a build, the second one is not older. -/
def NotOlder (text later : Option String) : Prop :=
  ∀ t t', Version.buildTime? text = some t → Version.buildTime? later = some t' → t ≤ t'

/-- Merged metadata names no older build of a file than any of its documents does. -/
def ResolvesToNewest (first : Metadata) (rest : List Metadata) (version : Version)
    (extension : String) (classifier : Option String) : Prop :=
  ∀ d ∈ first :: rest, NotOlder (d.fileVersion? version extension classifier)
    ((mergeAll first rest).fileVersion? version extension classifier)

variable {first : Metadata} {rest : List Metadata} {version : Version} {extension : String}
  {classifier : Option String}

/-- With an entry the choice among the entries counts, for the merged metadata and for each of the
documents that has one; without any the builds count. -/
theorem resolvesToNewest_iff : ResolvesToNewest first rest version extension classifier ↔
    (∀ e, IsChoice ((mergeAll first rest).buildVersion? version)
        ((mergeAll first rest).listed extension classifier) e →
      (∀ d ∈ first :: rest, ∀ x,
        IsChoice (d.buildVersion? version) (d.listed extension classifier) x →
          NotOlder (some x.value) (some e.value)) ∧
      ∀ d ∈ first :: rest, d.listed extension classifier = [] →
        NotOlder (d.buildVersion? version) (some e.value)) ∧
    ((∀ d ∈ first :: rest, d.listed extension classifier = []) → ∀ d ∈ first :: rest,
      NotOlder (d.buildVersion? version) ((mergeAll first rest).buildVersion? version)) := by
  constructor
  · intro h
    refine ⟨fun e he => ⟨fun d hd x hx => ?_, fun d hd hnone => ?_⟩, fun hnone d hd => ?_⟩
    · rw [← fileVersion?_of_isChoice he, ← fileVersion?_of_isChoice hx]
      exact h d hd
    · rw [← fileVersion?_of_isChoice he, ← fileVersion?_of_unlisted hnone]
      exact h d hd
    · rw [← fileVersion?_of_unlisted (hnone d hd),
        ← fileVersion?_of_unlisted (listed_mergeAll_eq_nil.2 hnone)]
      exact h d hd
  · rintro ⟨hlisted, hunlisted⟩ d hd
    by_cases hnone : (mergeAll first rest).listed extension classifier = []
    · have hall := listed_mergeAll_eq_nil.1 hnone
      rw [fileVersion?_of_unlisted hnone, fileVersion?_of_unlisted (hall d hd)]
      exact hunlisted hall d hd
    · obtain ⟨e, -, he⟩ := exists_isChoice ((mergeAll first rest).buildVersion? version) hnone
      rw [fileVersion?_of_isChoice he]
      by_cases hd' : d.listed extension classifier = []
      · rw [fileVersion?_of_unlisted hd']
        exact (hlisted e he).2 d hd hd'
      · obtain ⟨x, -, hx⟩ := exists_isChoice (d.buildVersion? version) hd'
        rw [fileVersion?_of_isChoice hx]
        exact (hlisted e he).1 d hd x hx

/-- Documents whose entries were updated when their builds were made, as far as can be told: entries
name builds, a later build was updated later or, if equally late, is the newest one, and builds have
timestamps of full width. -/
structure IsDated (first : Metadata) (rest : List Metadata) (version : Version)
    (extension : String) (classifier : Option String) : Prop where
  entry : ∀ e ∈ (mergeAll first rest).listed extension classifier,
    ∃ t, Version.buildTime? (some e.value) = some t
  order : ∀ e ∈ (mergeAll first rest).listed extension classifier,
    ∀ f ∈ (mergeAll first rest).listed extension classifier, ∀ t t',
      Version.buildTime? (some e.value) = some t → Version.buildTime? (some f.value) = some t' →
      t < t' → (e.updated ≠ f.updated ∧ notLater e.updated f.updated) ∨
        (e.updated = f.updated ∧ some f.value = (mergeAll first rest).buildVersion? version)
  build : ∀ d ∈ first :: rest, ∀ b, d.snapshot = some b →
    Version.isTimestamp b.timestamp.toList

/-- A build that is chosen among dated entries is the newest of them. -/
theorem IsDated.le_of_isChoice (h : IsDated first rest version extension classifier)
    {e f : SnapshotFile} (he : IsChoice ((mergeAll first rest).buildVersion? version)
      ((mergeAll first rest).listed extension classifier) e)
    (hf : f ∈ (mergeAll first rest).listed extension classifier) :
    NotOlder (some f.value) (some e.value) := by
  intro t t' ht ht'
  by_contra hlt
  rw [String.not_le] at hlt
  have hyields := he.yields hf
  rw [yields_iff] at hyields
  rcases h.order e he.mem f hf t' t ht' ht hlt with ⟨hne, hle⟩ | ⟨heq, hnewest⟩
  · rcases hyields with ⟨heq, -⟩ | ⟨-, hle'⟩
    · exact hne heq.symm
    · exact hne (notLater_antisymm hle hle')
  · rcases hyields with ⟨-, himp⟩ | ⟨hne, -⟩
    · -- Both entries would agree with the newest build, and so name the same one.
      have hsame : some e.value = some f.value := (himp hnewest).trans hnewest.symm
      rw [hsame, ht] at ht'
      cases ht'
      exact String.lt_irrefl _ hlt
    · exact hne heq.symm

theorem timestamp_of_buildVersion? {m : Metadata}
    (hbuild : ∀ b, m.snapshot = some b → Version.isTimestamp b.timestamp.toList) {t : String}
    (ht : Version.buildTime? (m.buildVersion? version) = some t) :
    ∃ b, m.snapshot = some b ∧ b.timestamp = t := by
  cases hm : m.snapshot with
  | none =>
      rw [buildVersion?, hm] at ht
      cases ht
  | some b =>
      refine ⟨b, rfl, ?_⟩
      cases hn : b.number with
      | none =>
          simp only [buildVersion?, hm, Option.bind_eq_bind, Option.bind_some, hn] at ht
          cases ht
      | some n =>
          simp only [buildVersion?, hm, Option.bind_eq_bind, Option.bind_some, hn] at ht
          exact (Version.buildTime?_eq (Version.dash_notMem_timestamp (hbuild b hm)) ht).symm

/-- Without entries the newest build is found, if timestamps have their full width. -/
theorem notOlder_buildVersion? (hbuild : ∀ d ∈ first :: rest, ∀ b, d.snapshot = some b →
      Version.isTimestamp b.timestamp.toList) {d : Metadata} (hd : d ∈ first :: rest) :
    NotOlder (d.buildVersion? version) ((mergeAll first rest).buildVersion? version) := by
  intro t t' ht ht'
  obtain ⟨b, hb, rfl⟩ := timestamp_of_buildVersion? (hbuild d hd) ht
  have hmerged : ∀ b, (mergeAll first rest).snapshot = some b →
      Version.isTimestamp b.timestamp.toList := by
    intro b hb
    obtain ⟨d, hd, hb⟩ := snapshot_mergeAll_mem hb
    exact hbuild d hd b hb
  obtain ⟨b', hb', rfl⟩ := timestamp_of_buildVersion? hmerged ht'
  obtain ⟨b'', hb'', hle⟩ := le_snapshot_mergeAll hd hb
  rw [hb', Option.some.injEq] at hb''
  rwa [hb'']

/-- Of dated documents the newest build is found exactly if none of them has an entry for the file,
or if those that have none know of no build that is newer than all entries. -/
theorem resolvesToNewest_iff_of_isDated
    (h : IsDated first rest version extension classifier) :
    ResolvesToNewest first rest version extension classifier ↔
      (∀ d ∈ first :: rest, d.listed extension classifier = []) ∨
      ∀ d ∈ first :: rest, d.listed extension classifier = [] →
        ∀ t, Version.buildTime? (d.buildVersion? version) = some t →
          ∃ e ∈ (mergeAll first rest).listed extension classifier, ∃ t',
            Version.buildTime? (some e.value) = some t' ∧ t ≤ t' := by
  rw [resolvesToNewest_iff]
  constructor
  · rintro ⟨hlisted, -⟩
    by_cases hnone : (mergeAll first rest).listed extension classifier = []
    · exact .inl (listed_mergeAll_eq_nil.1 hnone)
    · obtain ⟨e, -, he⟩ := exists_isChoice ((mergeAll first rest).buildVersion? version) hnone
      obtain ⟨t', ht'⟩ := h.entry e he.mem
      refine .inr fun d hd hd' t ht => ⟨e, he.mem, t', ht', ?_⟩
      exact (hlisted e he).2 d hd hd' t t' ht ht'
  · intro hcover
    refine ⟨fun e he => ⟨fun d hd x hx => ?_, fun d hd hd' t t' ht ht' => ?_⟩, fun _ d hd =>
      notOlder_buildVersion? h.build hd⟩
    · exact h.le_of_isChoice he (mem_listed_mergeAll.2 ⟨d, hd, hx.mem⟩)
    · rcases hcover with hnone | hcover
      · have hmem := he.mem
        rw [listed_mergeAll_eq_nil.2 hnone] at hmem
        cases hmem
      · obtain ⟨f, hf, u, hu, hle⟩ := hcover d hd hd' t ht
        exact String.le_trans hle (h.le_of_isChoice he hf u t' hu ht')

/-- When merged metadata stands for the newest build: for any documents in terms of what is chosen
from them, and for dated ones in terms of what they tell. -/
theorem newest_build_iff (first : Metadata) (rest : List Metadata) (version : Version)
    (extension : String) (classifier : Option String) :
    (ResolvesToNewest first rest version extension classifier ↔
      (∀ e, IsChoice ((mergeAll first rest).buildVersion? version)
          ((mergeAll first rest).listed extension classifier) e →
        (∀ d ∈ first :: rest, ∀ x,
          IsChoice (d.buildVersion? version) (d.listed extension classifier) x →
            NotOlder (some x.value) (some e.value)) ∧
        ∀ d ∈ first :: rest, d.listed extension classifier = [] →
          NotOlder (d.buildVersion? version) (some e.value)) ∧
      ((∀ d ∈ first :: rest, d.listed extension classifier = []) → ∀ d ∈ first :: rest,
        NotOlder (d.buildVersion? version) ((mergeAll first rest).buildVersion? version))) ∧
    (IsDated first rest version extension classifier →
      (ResolvesToNewest first rest version extension classifier ↔
        (∀ d ∈ first :: rest, d.listed extension classifier = []) ∨
        ∀ d ∈ first :: rest, d.listed extension classifier = [] →
          ∀ t, Version.buildTime? (d.buildVersion? version) = some t →
            ∃ e ∈ (mergeAll first rest).listed extension classifier, ∃ t',
              Version.buildTime? (some e.value) = some t' ∧ t ≤ t')) :=
  ⟨resolvesToNewest_iff, resolvesToNewest_iff_of_isDated⟩

/-- Two dated documents, each with an entry for its own build. -/
theorem newest_build_of_entries :
    ResolvesToNewest
      { group := "g", artifact := "a",
        snapshotFiles := [⟨none, "pom", "1.0-20210115.042754-180", some "20210115042754"⟩] }
      [{ group := "g", artifact := "a",
         snapshotFiles := [⟨none, "pom", "1.0-20220927.033510-223", some "20220927033510"⟩] }]
      (.snapshot "1.0") "pom" none := by
  have hfirst : Version.buildTime? (some "1.0-20210115.042754-180") = some "20210115.042754" := by
    decide +kernel
  have hsecond : Version.buildTime? (some "1.0-20220927.033510-223") = some "20220927.033510" := by
    decide +kernel
  refine ((newest_build_iff _ _ _ _ _).2 ⟨?_, ?_, ?_⟩).2 (.inr ?_)
  · simp [mergeAll, merge, addFiles, listed, hfirst, hsecond]
  · intro e he f hf t t' ht ht' hlt
    simp only [mergeAll, merge, addFiles, listed, List.foldl] at he hf
    rcases List.mem_cons.1 he with rfl | he
    · rcases List.mem_cons.1 hf with rfl | hf
      · rw [hfirst] at ht ht'
        cases ht
        cases ht'
        exact absurd hlt (by decide)
      · rw [List.mem_singleton.1 hf]
        exact .inl ⟨by decide, by decide⟩
    · rw [List.mem_singleton.1 he] at ht
      rw [hsecond] at ht
      cases ht
      rcases List.mem_cons.1 hf with rfl | hf
      · rw [hfirst] at ht'
        cases ht'
        exact absurd hlt (by decide)
      · rw [List.mem_singleton.1 hf, hsecond] at ht'
        cases ht'
        exact absurd hlt (by decide)
  · simp
  · simp [listed]

/-- The first document has an entry for its build, the second one only tells of a newer build. -/
theorem not_resolvesToNewest :
    ¬ResolvesToNewest
      { group := "g", artifact := "a", snapshot := some ⟨"20210115.042754", some 180⟩,
        snapshotFiles :=
          [⟨none, "pom", "1.0-20210115.042754-180", some "20210115042754"⟩] }
      [{ group := "g", artifact := "a", snapshot := some ⟨"20220927.033510", some 223⟩ }]
      (.snapshot "1.0") "pom" none := by
  intro h
  have hle := h _ (List.mem_cons_of_mem _ List.mem_cons_self) "20220927.033510" "20210115.042754"
    (by decide +kernel) (by decide +kernel)
  exact absurd hle (by decide)

end Metadata

end Depot
