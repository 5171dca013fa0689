import Depot.Proofs.KnownMetadata
import Mathlib.Data.List.ReduceOption

/-!
What the metadata of several repositories is merged to. Documents are merged one after the other,
but every field of the result can be told from the list of all documents that are found.
-/

namespace Depot

namespace Metadata

section Unseen

variable {α : Type} [BEq α]

/-- The elements that are neither among those seen before nor earlier in the list itself. -/
def unseen (seen xs : List α) : List α :=
  (xs.zipIdx.filter fun (x, i) => !(seen ++ xs.take i).contains x).map Prod.fst

theorem unseen_concat (seen xs : List α) (x : α) :
    unseen seen (xs ++ [x]) =
      unseen seen xs ++ if (seen ++ xs).contains x then [] else [x] := by
  have hfront : xs.zipIdx.filter (fun (y, i) => !(seen ++ (xs ++ [x]).take i).contains y) =
      xs.zipIdx.filter fun (y, i) => !(seen ++ xs.take i).contains y := by
    refine List.filter_congr ?_
    rintro ⟨y, i⟩ hy
    have hi := (List.mem_zipIdx' hy).1
    dsimp only
    rw [List.take_append_of_le_length (Nat.le_of_lt hi)]
  unfold unseen
  rw [List.zipIdx_append, List.filter_append, hfront, List.map_append, List.zipIdx_singleton,
    Nat.zero_add]
  congr 1
  simp only [List.filter_cons, List.filter_nil, List.take_left]
  cases (seen ++ xs).contains x <;> rfl

theorem appendNew_eq_unseen [LawfulBEq α] (seen xs : List α) :
    appendNew seen xs = seen ++ unseen seen xs := by
  induction xs using List.reverseRecOn with
  | nil => simp [appendNew, unseen]
  | append_singleton xs x ih =>
      rw [appendNew_append, unseen_concat, ← List.append_assoc, ← ih]
      by_cases hx : x ∈ seen ++ xs
      · have hmem : x ∈ appendNew seen xs := mem_appendNew.2 (List.mem_append.1 hx)
        rw [if_pos (by simpa using hx), appendNew_cons_of_mem hmem, List.append_nil]
        rfl
      · have hnew : x ∉ appendNew seen xs := fun h => hx (List.mem_append.2 (mem_appendNew.1 h))
        rw [if_neg (by simpa using hx), appendNew_cons_of_notMem hnew]
        rfl

end Unseen

section Greatest

variable {α : Type} {key : α → String}

/-- The first of those that are there and whose key is greatest; nothing if none is there. -/
def IsFirstGreatest (key : α → String) (xs : List (Option α)) : Option α → Prop
  | none => ∀ x ∈ xs, x = none
  | some a => ∃ before after, xs = before ++ some a :: after ∧
      (∀ b, some b ∈ before → key b < key a) ∧ ∀ b, some b ∈ after → key b ≤ key a

theorem isFirstGreatest_foldl (key : α → String) (xs : List (Option α)) :
    IsFirstGreatest key xs (xs.foldl (firstGreatest key) none) := by
  -- A step of the fold compares what was found so far with the element that comes last.
  induction xs using List.reverseRecOn with
  | nil => exact List.forall_mem_nil _
  | append_singleton xs x ih =>
      rw [List.foldl_append, List.foldl_cons, List.foldl_nil]
      cases hbest : xs.foldl (firstGreatest key) none with
      | none =>
          rw [hbest] at ih
          cases x with
          | none => exact fun y hy => (List.mem_append.1 hy).elim (ih y) List.mem_singleton.1
          | some b =>
              refine ⟨xs, [], rfl, fun d hd => ?_, nofun⟩
              cases ih _ hd
      | some a =>
          rw [hbest] at ih
          obtain ⟨before, after, rfl, hbefore, hafter⟩ := ih
          cases x with
          | none =>
              refine ⟨before, after ++ [none], by simp, hbefore, fun d hd => hafter d ?_⟩
              simpa using hd
          | some b =>
              rw [firstGreatest]
              split
              · rename_i hlt
                refine ⟨before ++ some a :: after, [], rfl, fun d hd => ?_, nofun⟩
                rcases List.mem_append.1 hd with hd | hd
                · exact String.lt_trans (hbefore d hd) hlt
                · rcases List.mem_cons.1 hd with heq | hd
                  · cases heq
                    exact hlt
                  · by_contra hle
                    have hba := String.le_trans (String.not_lt.1 hle) (hafter d hd)
                    exact String.not_lt.2 hba hlt
              · rename_i hle
                refine ⟨before, after ++ [some b], by simp, hbefore, fun d hd => ?_⟩
                rcases List.mem_append.1 hd with hd | hd
                · exact hafter d hd
                · cases List.mem_singleton.1 hd
                  exact String.not_lt.1 hle

end Greatest

/-- The metadata is what these documents are merged to, in this order. -/
structure IsMergeOf (first : Metadata) (rest : List Metadata) (m : Metadata) : Prop where
  group : m.group = first.group
  artifact : m.artifact = first.artifact
  version : m.version = (first :: rest).findSome? Metadata.version
  latest : m.latest = (first :: rest).findSome? Metadata.latest
  release : m.release = (first :: rest).findSome? Metadata.release
  versions : m.versions = unseen [] ((first :: rest).flatMap Metadata.versions)
  snapshot : IsFirstGreatest SnapshotBuild.timestamp ((first :: rest).map Metadata.snapshot)
    m.snapshot
  snapshotFiles : m.snapshotFiles = first.snapshotFiles ++
    unseen first.snapshotFiles (rest.flatMap Metadata.snapshotFiles)
  lastUpdated : IsFirstGreatest id ((first :: rest).map Metadata.lastUpdated) m.lastUpdated

section Fields

variable (first : Metadata) (rest : List Metadata)

theorem mergeAll_cons (d : Metadata) : mergeAll first (d :: rest) = mergeAll (first.merge d) rest :=
  rfl

/-- A field that is taken from the first document that has it. -/
theorem findSome?_mergeAll {field : Metadata → Option String}
    (hfield : ∀ a b : Metadata, field (a.merge b) = (field a).or (field b)) :
    field (mergeAll first rest) = (first :: rest).findSome? field := by
  induction rest generalizing first with
  | nil => cases h : field first <;> simp [mergeAll, h]
  | cons d rest ih =>
      rw [mergeAll_cons, ih, List.findSome?_cons, List.findSome?_cons, List.findSome?_cons, hfield]
      cases field first <;> rfl

/-- A field that is taken from a document whose key is greatest. -/
theorem foldl_mergeAll {α : Type} {key : α → String} (field : Metadata → Option α)
    (hfield : ∀ a b : Metadata, field (a.merge b) = firstGreatest key (field a) (field b)) :
    field (mergeAll first rest) = ((first :: rest).map field).foldl (firstGreatest key) none := by
  induction rest generalizing first with
  | nil => rfl
  | cons d rest ih =>
      rw [mergeAll_cons, ih, List.map_cons, List.foldl_cons, hfield]
      rfl

theorem group_mergeAll : (mergeAll first rest).group = first.group := by
  induction rest generalizing first with
  | nil => rfl
  | cons d rest ih => rw [mergeAll_cons, ih, merge]

theorem artifact_mergeAll : (mergeAll first rest).artifact = first.artifact := by
  induction rest generalizing first with
  | nil => rfl
  | cons d rest ih => rw [mergeAll_cons, ih, merge]

theorem snapshotFiles_mergeAll : (mergeAll first rest).snapshotFiles =
    appendNew first.snapshotFiles (rest.flatMap Metadata.snapshotFiles) := by
  induction rest generalizing first with
  | nil => rfl
  | cons d rest ih =>
      rw [mergeAll_cons, ih, List.flatMap_cons, appendNew_append]
      rfl

theorem versions_mergeAll (h : first.versions.Nodup) : (mergeAll first rest).versions =
    appendNew first.versions (rest.flatMap Metadata.versions) := by
  -- Merging also drops repetitions within the first document, of which there are none.
  induction rest generalizing first with
  | nil => rfl
  | cons d rest ih =>
      have hmerge : (first.merge d).versions = appendNew first.versions d.versions := by
        rw [merge, distinct_append, distinct_eq_self_iff.2 h]
      rw [mergeAll_cons, ih _ (hmerge ▸ nodup_appendNew h), List.flatMap_cons, appendNew_append,
        hmerge]

end Fields

theorem isMergeOf_mergeAll {first : Metadata} (h : first.versions.Nodup) (rest : List Metadata) :
    IsMergeOf first rest (mergeAll first rest) where
  group := group_mergeAll first rest
  artifact := artifact_mergeAll first rest
  version := findSome?_mergeAll first rest fun _ _ => rfl
  latest := findSome?_mergeAll first rest fun _ _ => rfl
  release := findSome?_mergeAll first rest fun _ _ => rfl
  versions := by
    have hfirst : appendNew [] first.versions = first.versions := by
      rw [appendNew_of_nodup (by simpa using h), List.nil_append]
    have hnone := appendNew_eq_unseen [] ((first :: rest).flatMap Metadata.versions)
    rw [List.nil_append, List.flatMap_cons, appendNew_append, hfirst] at hnone
    rw [versions_mergeAll first rest h, hnone, List.flatMap_cons]
  snapshot := by
    rw [foldl_mergeAll first rest Metadata.snapshot fun _ _ => laterBuild_eq_firstGreatest _ _]
    exact isFirstGreatest_foldl _ _
  snapshotFiles := by rw [snapshotFiles_mergeAll, appendNew_eq_unseen]
  lastUpdated := by
    rw [foldl_mergeAll first rest Metadata.lastUpdated fun _ _ => greater_eq_firstGreatest _ _]
    exact isFirstGreatest_foldl _ _

theorem Arises.mergeAll {first : Metadata} {rest : List Metadata}
    (h : ∀ d ∈ first :: rest, d.Arises) : (mergeAll first rest).Arises := by
  induction rest generalizing first with
  | nil => exact h first List.mem_cons_self
  | cons d rest ih =>
      simp only [List.forall_mem_cons] at h ih
      exact ih ⟨.merged h.1 h.2.1, h.2.2⟩

end Metadata

namespace Resolution

open Metadata Repository Run

/-- What the documents that are found are merged to, if there are any. -/
def mergeFound : List Metadata → Option Metadata
  | [] => none
  | first :: rest => some (mergeAll first rest)

theorem foldl_combine_some (each : List (Option Metadata)) (a : Metadata) :
    each.foldl combine (some a) = some (mergeAll a each.reduceOption) := by
  induction each generalizing a with
  | nil => rfl
  | cons found each ih =>
      cases found with
      | none => exact ih a
      | some b => exact ih (a.merge b)

theorem foldl_combine (each : List (Option Metadata)) :
    each.foldl combine none = mergeFound each.reduceOption := by
  induction each with
  | nil => rfl
  | cons found each ih =>
      cases found with
      | none => exact ih
      | some a => exact foldl_combine_some each a

variable {c : Configuration} {s : Session}

/-- Repositories are asked for their metadata one after the other. There is none if none of them
has any, and otherwise it is what the documents are merged to that are found. All documents come
about in one of the known ways, and so in none of them a version is there twice. -/
theorem resolveMerged_isMergeOf (hs : Metadata.Reached c s.metadata) (rs : List Repository)
    (ga : GroupArtifact) (versionDirectory : Option String) :
    let each := rs.mapM (fun r => resolve c.settings r.access ga versionDirectory) s
    let merged := resolveMerged c.settings (rs.map access) ga versionDirectory s
    let found := each.1.reduceOption
    merged.2 = each.2 ∧
    (merged.1 = none ↔ found = []) ∧
    (∀ first rest, found = first :: rest → ∃ m, merged.1 = some m ∧ IsMergeOf first rest m) ∧
    (∀ m, m ∈ found ∨ merged.1 = some m → m.Arises) ∧
    ∀ m : Metadata, m.Arises → m.versions.Nodup := by
  intro each merged found
  have hasked : (rs.map (Question.mk · ga versionDirectory)).mapM (Question.resolve c.settings) s =
      each := by
    rw [List.mapM_map]
    rfl
  have hmerged : merged = (mergeFound found, each.2) := by
    refine (resolveMerged_apply c.settings rs ga versionDirectory s).trans ?_
    rw [hasked]
    dsimp only
    rw [foldl_combine]
  have hall : ∀ answer ∈ each.1, AllArise answer := by
    rw [← hasked]
    exact (Question.mapM_resolve_arisen _ s hs.arisen).2
  have harises : ∀ m ∈ found, m.Arises := fun m hm =>
    hall _ (List.reduceOption_mem_iff.1 hm) m rfl
  rw [hmerged]
  refine ⟨rfl, ?_, ?_, ?_, fun m => Arises.nodup_versions⟩
  · cases found <;> simp [mergeFound]
  · intro first rest hfound
    rw [hfound] at harises ⊢
    have hfirst := (harises first List.mem_cons_self).nodup_versions
    exact ⟨_, rfl, isMergeOf_mergeAll hfirst rest⟩
  · rintro m (hm | hm)
    · exact harises m hm
    · cases hfound : found with
      | nil =>
          rw [hfound] at hm
          cases hm
      | cons first rest =>
          rw [hfound] at hm harises
          cases hm
          exact .mergeAll harises

/-- Two directories with versions of an artifact, the first of which was asked before. -/
theorem resolveMerged_isMergeOf_listed :
    let ga : GroupArtifact := ⟨"g", "a"⟩
    let a : Repository := { id := "a", uri := "file:///r", deriveMetadata := true }
    let b : Repository := { id := "b", uri := "file:///q", deriveMetadata := true }
    let files := Files.addDirectory [] (["r", "g", "a", "2.0"].map Text.Utf8.encode)
    let w : World := { files := files.addDirectory (["q", "g", "a", "1.0"].map Text.Utf8.encode) }
    let s := (Inquiry.resolve ⟨a, ga, none⟩).after {} w.start
    ∃ m, (resolveMerged {} ([a, b].map access) ga none s).1 = some m ∧
      IsMergeOf (ofVersions ga ["2.0"]) [ofVersions ga ["1.0"]] m := by
  intro ga a b files w s
  obtain ⟨-, -, hmerge, -⟩ := resolveMerged_isMergeOf (c := {}) (s := s)
    (.inquiry (s := w.start) _ .empty) [a, b] ga none
  exact hmerge _ _ (by decide +kernel)

end Resolution

end Depot
