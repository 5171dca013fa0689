import Depot.Proofs.LayoutNames

/-!
Writing the path of an artifact and reading it, in either order. What is written is read as the same
artifact if its parts can be told apart in the path. What is read is written in the same way unless
a group had dots, a build was a directory of its own, or a number had superfluous zeros.
-/

namespace Depot.Layout

open Text

/-- The parts of the artifact can be told apart in its path. -/
structure IsWellFormed (a : Artifact) : Prop where
  group_ne : a.coordinates.group ≠ ""
  group_head : a.coordinates.group.toList.head? ≠ some '.'
  group : '/' ∉ a.coordinates.group.toList
  artifact : '/' ∉ a.coordinates.artifact.toList
  version : '/' ∉ a.coordinates.version.text.toList
  classifier : ∀ c, a.classifier = some c → c ≠ "" ∧ '.' ∉ c.toList ∧ '/' ∉ c.toList
  extension_ne : a.extension ≠ ""
  extension : '/' ∉ a.extension.toList

theorem path_eq_join (a : Artifact) (fileVersion : String) : path a fileVersion =
    join (groupPath a.coordinates.group) a.coordinates.artifact a.coordinates.version.directory
      (fileName a fileVersion) := rfl

theorem slash_notMem_write (n : Nat) : '/' ∉ (Natural.write n).toList := fun hmem =>
  absurd (Natural.isDigit_of_mem_write hmem) (by decide)

theorem slash_notMem_text_build {base timestamp : String} (number : UInt32)
    (h : Version.isTimestamp timestamp.toList) :
    '/' ∉ (Version.build base timestamp number).text.toList ↔ '/' ∉ base.toList := by
  simp [Version.text, Version.slash_notMem_timestamp h, slash_notMem_write]

theorem slash_notMem_directory_build (base timestamp : String) (number : UInt32) :
    '/' ∉ (Version.build base timestamp number).directory.toList ↔ '/' ∉ base.toList := by
  have htail : '/' ∉ snapshotTail.toList := by decide
  simp [Version.directory, htail]

theorem slash_notMem_text_ofString (s : String) :
    '/' ∉ (Version.ofString s).text.toList ↔ '/' ∉ (Version.ofString s).directory.toList := by
  rcases Version.ofString_cases s with ⟨base, -, h⟩ | ⟨-, h | ⟨base, timestamp, number, ht, h⟩⟩
  · rw [h]
    rfl
  · rw [h]
    rfl
  · rw [h, slash_notMem_text_build number ht, slash_notMem_directory_build]

/-- A version that was read is named by its own text in its own directory. -/
theorem isNamed_text (s : String) :
    IsNamed (Version.ofString s).directory (.ofString s) (Version.ofString s).text := by
  rcases Version.ofString_cases s with ⟨base, hs, h⟩ | ⟨-, h | ⟨base, timestamp, number, ht, h⟩⟩
  · have hsame : IsNamed s (.ofString s) s := .same
    rw [h] at hsame ⊢
    rwa [hs] at hsame
  · have hsame : IsNamed s (.ofString s) s := .same
    rwa [h] at hsame ⊢
  · rw [h]
    have hdigits : ∀ c ∈ (Natural.write number.toNat).toList, isDecimalDigit c := fun c hc =>
      isDecimalDigit_of_isDigit (Natural.isDigit_of_mem_write hc)
    have hnamed : IsNamed (base ++ snapshotTail) _ _ :=
      .build rfl ht hdigits (Natural.read_write number.toNat_lt)
    rwa [UInt32.ofNat_toNat] at hnamed

theorem IsNamed.slash_notMem_text {directory text : String} {v : Version}
    (h : IsNamed directory v text) (hdirectory : '/' ∉ directory.toList) :
    '/' ∉ v.text.toList := by
  have hslash := h.slash_notMem_directory hdirectory
  cases h with
  | same => exact (slash_notMem_text_ofString directory).2 hslash
  | build _ htimestamp _ _ =>
      exact (slash_notMem_text_build _ htimestamp).2 ((slash_notMem_directory_build ..).1 hslash)

section Replacing

variable {old new : Char} {s : List Char}

theorem replaceChar_replaceChar :
    replaceChar old new (replaceChar new old s) = replaceChar old new s := by
  simp only [replaceChar, List.map_map]
  refine List.map_congr_left fun c _ => ?_
  dsimp only [Function.comp]
  split <;> simp_all

theorem notMem_replaceChar (h : old ≠ new) : old ∉ replaceChar old new s := by
  intro hmem
  obtain ⟨c, -, hc⟩ := List.mem_map.1 hmem
  split at hc
  · exact h hc.symm
  · rename_i hne
    exact hne hc

theorem replaceChar_eq_self_iff (h : old ≠ new) : replaceChar old new s = s ↔ old ∉ s := by
  constructor
  · intro heq
    rw [← heq]
    exact notMem_replaceChar h
  · intro hmem
    refine (List.map_congr_left fun c hc => if_neg ?_).trans (List.map_id' s)
    rintro rfl
    exact hmem hc

end Replacing

theorem length_groupPath (group : String) :
    (groupPath group).toList.length = group.toList.length := by
  rw [groupPath, String.toList_ofList, replaceChar, List.length_map]

theorem relative_of_head {p : String} (h : p.toList.head? ≠ some '/') : relative p = p := by
  rw [relative, ← String.toList_inj, String.toList_ofList]
  cases hp : p.toList with
  | nil => rfl
  | cons c rest =>
      rw [hp, List.head?_cons, Ne, Option.some.injEq] at h
      exact List.dropWhile_cons_of_neg (by simpa using h)

/-- Slashes before a path would belong to its group. -/
theorem head_of_relative {group group' artifact version version' file file' : String}
    (hartifact : '/' ∉ artifact.toList) (hversion : '/' ∉ version.toList)
    (hfile : '/' ∉ file.toList) (hversion' : '/' ∉ version'.toList) (hfile' : '/' ∉ file'.toList)
    (hlength : group.toList.length = group'.toList.length)
    (h : relative (join group artifact version file) = join group' artifact version' file') :
    group.toList.head? ≠ some '/' := by
  have hjoin : (join group artifact version file).toList =
      (join group artifact version file).toList.takeWhile (· == '/') ++
        (join group' artifact version' file').toList := by
    rw [← h, relative, String.toList_ofList, List.takeWhile_append_dropWhile]
  have hshift : join group artifact version file = join (String.ofList
      ((join group artifact version file).toList.takeWhile (· == '/') ++ group'.toList))
        artifact version' file' := by
    rw [← String.toList_inj]
    conv_lhs => rw [hjoin]
    simp only [toList_join, String.toList_ofList, List.append_assoc]
  obtain ⟨hgroup, -⟩ := join_injective hartifact hversion hfile hartifact hversion' hfile' hshift
  intro hhead
  obtain ⟨rest, hrest⟩ := List.head?_eq_some_iff.1 hhead
  have hgroup := congrArg (fun s => s.toList.length) hgroup
  simp only [toList_join, hrest, List.cons_append, String.toList_ofList, List.length_append,
    List.takeWhile_cons_of_pos (p := (· == '/')) (a := '/') rfl, List.length_cons] at hgroup
  rw [← hlength, hrest, List.length_cons] at hgroup
  omega

/-- A path is read as the artifact that it was written for exactly if that one is well-formed. -/
theorem readPath_path_eq_ok_iff (group artifact version : String) (classifier : Option String)
    (extension : String) :
    let a : Artifact := ⟨⟨group, artifact, .ofString version⟩, classifier, extension⟩
    readPath (path a a.coordinates.version.text) = .ok a ↔ IsWellFormed a := by
  intro a
  have hslash : '/' ∉ a.coordinates.version.text.toList ↔
      '/' ∉ a.coordinates.version.directory.toList := slash_notMem_text_ofString version
  rw [readPath_eq_ok_iff, path_eq_join]
  constructor
  · rintro ⟨group', version', text, h, hrelative⟩
    obtain ⟨-, -, hclassifier, hextension⟩ := slash_notMem_fileName.1 h.file
    have hversion := h.version.slash_notMem_text h.directory
    have hgroup : a.coordinates.group.toList = replaceChar '/' '.' group'.toList := by
      rw [h.group, String.toList_ofList]
    have hlength : a.coordinates.group.toList.length = group'.toList.length := by
      rw [hgroup, replaceChar, List.length_map]
    have hhead := head_of_relative h.artifact (hslash.1 hversion)
      (slash_notMem_fileName.2 ⟨h.artifact, hversion, hclassifier, hextension⟩) h.directory h.file
      ((length_groupPath _).trans hlength) hrelative
    constructor
    · intro hempty
      rw [hempty] at hlength
      exact h.group_ne (String.toList_eq_nil_iff.1 (List.length_eq_zero_iff.1 hlength.symm))
    · intro hdot
      obtain ⟨rest, hrest⟩ := List.head?_eq_some_iff.1 hdot
      exact hhead (by simp [groupPath, replaceChar, hrest])
    · rw [hgroup]
      exact notMem_replaceChar (by decide)
    · exact h.artifact
    · exact hversion
    · intro c hc
      exact ⟨(h.ending.classifier c hc).1, (h.ending.classifier c hc).2, hclassifier c hc⟩
    · exact h.ending.extension
    · exact hextension
  · intro h
    obtain ⟨c, rest, hc⟩ : ∃ c rest, a.coordinates.group.toList = c :: rest :=
      List.exists_cons_of_ne_nil (mt String.toList_eq_nil_iff.1 h.group_ne)
    have hdot : c ≠ '.' := by simpa [hc] using h.group_head
    have hc' : c ≠ '/' := by
      rintro rfl
      exact h.group (by simp [hc])
    have hgroup : (groupPath a.coordinates.group).toList = c :: replaceChar '.' '/' rest := by
      simp [groupPath, replaceChar, hc, hdot]
    have hhead : (join (groupPath a.coordinates.group) a.coordinates.artifact
        a.coordinates.version.directory (fileName a a.coordinates.version.text)).toList.head? ≠
          some '/' := by
      rw [toList_join, hgroup]
      simpa using hc'
    refine ⟨groupPath a.coordinates.group, a.coordinates.version.directory,
      a.coordinates.version.text, ?_, relative_of_head hhead⟩
    constructor
    · intro hempty
      rw [hempty] at hgroup
      cases hgroup
    · rw [groupPath, String.toList_ofList, replaceChar_replaceChar,
        (replaceChar_eq_self_iff (by decide)).2 h.group, String.ofList_toList]
    · exact h.artifact
    · exact hslash.1 h.version
    · exact slash_notMem_fileName.2
        ⟨h.artifact, h.version, fun c hc => (h.classifier c hc).2.2, h.extension⟩
    · exact isNamed_text version
    · exact ⟨fun c hc => ⟨(h.classifier c hc).1, (h.classifier c hc).2.1⟩, h.extension_ne⟩

/-- Which texts are written again for a version that was read. -/
theorem IsNamed.text_eq_iff {directory text : String} {v : Version} (h : IsNamed directory v text) :
    v.directory = directory ∧ v.text = text ↔
      (∀ base timestamp number, Version.ofString directory ≠ .build base timestamp number) ∧
      ∀ base timestamp digits number, v = .build base timestamp number →
        directory = base ++ snapshotTail → text = base ++ "-" ++ timestamp ++ "-" ++ digits →
        digits = Natural.write number.toNat := by
  cases h with
  | same =>
      rcases Version.ofString_cases directory with
        ⟨base, hbase, hv⟩ | ⟨hne, hv | ⟨base, timestamp, number, -, hv⟩⟩
      · rw [hv]
        simp [Version.directory, Version.text, ← hbase]
      · rw [hv]
        simp [Version.directory, Version.text]
      · rw [hv]
        refine iff_of_false (fun h => hne base h.1.symm) fun h => ?_
        exact h.1 base timestamp number rfl
  | @build base timestamp digits number hbase =>
      have hsnapshot : Version.ofString directory = .snapshot base := by
        rcases Version.ofString_cases directory with ⟨base', hbase', hv⟩ | ⟨hne, -⟩
        · rw [hbase] at hbase'
          rw [hv, (String.append_left_inj _).1 hbase']
        · exact absurd hbase (hne base)
      rw [hsnapshot]
      constructor
      · rintro ⟨-, htext⟩
        refine ⟨by simp, ?_⟩
        intro base' timestamp' digits' number' hv hbase' htext'
        cases hv
        rw [← htext] at htext'
        simpa [Version.text] using htext'.symm
      · rintro ⟨-, hdigits⟩
        refine ⟨hbase.symm, ?_⟩
        rw [hdigits base timestamp digits _ rfl hbase rfl]
        rfl

theorem fileName_injective {a : Artifact} {text text' : String}
    (h : fileName a text = fileName a text') : text = text' := by
  simpa [fileName] using h

/-- A path that is read is written in the same way exactly if its group has no dots, its version
directory is not that of a single build, and the number of a build in the directory of its snapshot
has no superfluous zeros. -/
theorem path_eq_iff_of_readPath {p : String} {a : Artifact} (h : readPath p = .ok a) :
    ∃ group artifact version file : String, relative p = join group artifact version file ∧
      '/' ∉ artifact.toList ∧ '/' ∉ version.toList ∧ '/' ∉ file.toList ∧
      (path a a.coordinates.version.text = join group artifact version file ↔
        '.' ∉ group.toList ∧
        (∀ base timestamp number, Version.ofString version ≠ .build base timestamp number) ∧
        ∀ base timestamp digits number, a.coordinates.version = .build base timestamp number →
          version = base ++ snapshotTail →
          file = fileName a (base ++ "-" ++ timestamp ++ "-" ++ digits) →
          digits = Natural.write number.toNat) := by
  obtain ⟨group, version, text, hspelled, hrelative⟩ := readPath_eq_ok_iff.1 h
  obtain ⟨-, -, hclassifier, hextension⟩ := slash_notMem_fileName.1 hspelled.file
  have hdirectory := hspelled.version.slash_notMem_directory hspelled.directory
  have hversion := hspelled.version.slash_notMem_text hspelled.directory
  refine ⟨group, a.coordinates.artifact, version, fileName a text, hrelative, hspelled.artifact,
    hspelled.directory, hspelled.file, ?_⟩
  have hself : replaceChar '.' '/' group.toList = group.toList ↔ '.' ∉ group.toList :=
    replaceChar_eq_self_iff (by decide)
  have hgroup : groupPath a.coordinates.group = group ↔ '.' ∉ group.toList := by
    rw [hspelled.group, groupPath, String.toList_ofList, replaceChar_replaceChar, ← hself,
      ← String.toList_inj, String.toList_ofList]
  have hparts : path a a.coordinates.version.text =
        join group a.coordinates.artifact version (fileName a text) ↔
      groupPath a.coordinates.group = group ∧ a.coordinates.version.directory = version ∧
        a.coordinates.version.text = text := by
    rw [path_eq_join]
    constructor
    · intro heq
      obtain ⟨hgroup, -, hdirectory, hfile⟩ := join_injective hspelled.artifact hdirectory
        (slash_notMem_fileName.2 ⟨hspelled.artifact, hversion, hclassifier, hextension⟩)
        hspelled.artifact hspelled.directory hspelled.file heq
      exact ⟨hgroup, hdirectory, fileName_injective hfile⟩
    · rintro ⟨hgroup, hdirectory, htext⟩
      rw [hgroup, hdirectory, htext]
  rw [hparts, hgroup, hspelled.version.text_eq_iff]
  refine and_congr_right fun _ => and_congr_right fun _ => ?_
  constructor
  · intro hdigits base timestamp digits number hv hbase hfile
    exact hdigits base timestamp digits number hv hbase (fileName_injective hfile)
  · intro hdigits base timestamp digits number hv hbase htext
    exact hdigits base timestamp digits number hv hbase (congrArg (fileName a) htext)

/-- A build whose number has a zero before it is written without that zero. -/
theorem path_ne_of_superfluous_zero :
    ∃ a, readPath "/g/a/1-SNAPSHOT/a-1-20210127.131051-02.pom" = .ok a ∧
      path a a.coordinates.version.text ≠ "g/a/1-SNAPSHOT/a-1-20210127.131051-02.pom" := by
  have hread : readPath "/g/a/1-SNAPSHOT/a-1-20210127.131051-02.pom" =
      .ok ⟨⟨"g", "a", .build "1" "20210127.131051" 2⟩, none, "pom"⟩ := by decide +kernel
  have hrelative : relative "/g/a/1-SNAPSHOT/a-1-20210127.131051-02.pom" =
      join "g" "a" "1-SNAPSHOT" "a-1-20210127.131051-02.pom" := by decide +kernel
  refine ⟨_, hread, ?_⟩
  obtain ⟨group, artifact, version, file, hparts, hartifact, hversion, hfile, hiff⟩ :=
    path_eq_iff_of_readPath hread
  rw [hrelative] at hparts
  obtain ⟨rfl, rfl, rfl, rfl⟩ := join_injective (by decide) (by decide) (by decide)
    hartifact hversion hfile hparts
  intro heq
  obtain ⟨-, -, hdigits⟩ := hiff.1 heq
  exact absurd (hdigits "1" "20210127.131051" "02" 2 rfl rfl rfl) (by decide)

end Depot.Layout
