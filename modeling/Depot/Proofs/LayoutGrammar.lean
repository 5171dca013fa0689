import Depot.Layout.Reading
import Depot.Proofs.VersionText

/-!
What is read as the path of an artifact. The name of a file looks ambiguous, since ids, versions and
classifiers have dashes and versions and extensions have dots. But the directories before it say
where artifact id and version end, so each reader accepts exactly what one rule writes.
-/

namespace Depot.Layout

open Text

/-- How a version is written in the names of the files in a directory: in the way the directory is
named or, in that of a snapshot, as one of its builds. -/
inductive IsNamed (directory : String) : Version → String → Prop
  | same : IsNamed directory (.ofString directory) directory
  | build {base timestamp digits : String} {number : Nat} :
      directory = base ++ snapshotTail → Version.isTimestamp timestamp.toList →
      (∀ c ∈ digits.toList, isDecimalDigit c) →
      Natural.read UInt32.size digits.toList = .ok number →
      IsNamed directory (.build base timestamp (UInt32.ofNat number))
        (base ++ "-" ++ timestamp ++ "-" ++ digits)

/-- What may follow the version in the name of a file. -/
structure IsEnding (classifier : Option String) (extension : String) : Prop where
  classifier : ∀ c, classifier = some c → c ≠ "" ∧ '.' ∉ c.toList
  extension : extension ≠ ""

/-- The four parts of a path. -/
def join (group artifact version file : String) : String :=
  group ++ "/" ++ artifact ++ "/" ++ version ++ "/" ++ file

/-- A path without the slashes before it. -/
def relative (path : String) : String := String.ofList (path.toList.dropWhile (· == '/'))

/-- Directories and a text for the version under which an artifact is found. -/
structure IsSpelled (a : Artifact) (group version text : String) : Prop where
  group_ne : group ≠ ""
  group : a.coordinates.group = String.ofList (replaceChar '/' '.' group.toList)
  artifact : '/' ∉ a.coordinates.artifact.toList
  directory : '/' ∉ version.toList
  file : '/' ∉ (fileName a text).toList
  version : IsNamed version a.coordinates.version text
  ending : IsEnding a.classifier a.extension

theorem slash_notMem_fileName {a : Artifact} {text : String} : '/' ∉ (fileName a text).toList ↔
    '/' ∉ a.coordinates.artifact.toList ∧ '/' ∉ text.toList ∧
      (∀ c, a.classifier = some c → '/' ∉ c.toList) ∧ '/' ∉ a.extension.toList := by
  cases h : a.classifier <;> simp [fileName, classifierPart, h]

theorem IsNamed.slash_notMem_directory {directory text : String} {v : Version}
    (h : IsNamed directory v text) (hdirectory : '/' ∉ directory.toList) :
    '/' ∉ v.directory.toList := by
  cases h with
  | same => exact Version.slash_notMem_directory hdirectory
  | build hbase _ _ _ => rwa [hbase] at hdirectory

theorem readBuild?_eq_some_iff {s timestamp digits rest : List Char} :
    readBuild? s = some (timestamp, digits, rest) ↔
      s = timestamp ++ '-' :: (digits ++ rest) ∧ Version.isTimestamp timestamp ∧ digits ≠ [] ∧
        (∀ c ∈ digits, isDecimalDigit c) ∧ ∀ c, rest.head? = some c → isDecimalDigit c = false := by
  constructor
  · intro h
    unfold readBuild? at h
    split at h
    · rename_i more hmore
      dsimp only at h
      split at h
      · rename_i hbuild
        cases h
        rw [Bool.and_eq_true, Bool.not_eq_true', List.isEmpty_eq_false_iff] at hbuild
        refine ⟨?_, hbuild.1, hbuild.2,
          List.all_eq_true.1 List.all_takeWhile, fun c hc => ?_⟩
        · rw [List.takeWhile_append_dropWhile, ← hmore, List.take_append_drop]
        · have hhead := List.head?_dropWhile_not isDecimalDigit more
          rw [hc] at hhead
          exact hhead
      · cases h
    · cases h
  · rintro ⟨rfl, htimestamp, hne, hdigits, hrest⟩
    have hlength := Version.length_timestamp htimestamp
    have hstop : rest.takeWhile isDecimalDigit = [] ∧ rest.dropWhile isDecimalDigit = rest := by
      cases rest with
      | nil => exact ⟨rfl, rfl⟩
      | cons c rest =>
          have hc := hrest c rfl
          exact ⟨List.takeWhile_cons_of_neg (by simp [hc]),
            List.dropWhile_cons_of_neg (by simp [hc])⟩
    unfold readBuild?
    rw [List.drop_left' hlength, List.take_left' hlength]
    simp only [List.takeWhile_append_of_pos hdigits, List.dropWhile_append_of_pos hdigits, hstop,
      List.append_nil, htimestamp, List.isEmpty_eq_false_iff.2 hne, Bool.not_false, Bool.and_self,
      if_true]

theorem readVersion_eq_ok_iff {file version : String} {s rest : List Char} {v : Version}
    (hrest : ∀ c, rest.head? = some c → isDecimalDigit c = false) :
    readVersion file version s = .ok (v, rest) ↔
      ∃ text, IsNamed version v text ∧ s = text.toList ++ rest := by
  constructor
  · intro h
    unfold readVersion at h
    split at h
    · rename_i hlead
      cases h
      exact ⟨version, .same, afterLead?_eq_some_iff.1 hlead⟩
    · split at h
      · cases h
      · rename_i base hbase
        split at h
        · cases h
        · rename_i build hbuild
          split at h
          · cases h
          · rename_i timestamp digits rest' hread
            split at h
            · cases h
            · rename_i number hnumber
              cases h
              obtain ⟨rfl, htimestamp, -, hdigits, -⟩ := readBuild?_eq_some_iff.1 hread
              have hversion : version = String.ofList base ++ snapshotTail := by
                rw [← String.toList_inj, String.toList_append, String.toList_ofList]
                exact beforeTail?_eq_some_iff.1 hbase
              rw [← String.toList_ofList (l := timestamp)] at htimestamp
              rw [← String.toList_ofList (l := digits)] at hdigits hnumber
              refine ⟨_, .build hversion htimestamp hdigits hnumber, ?_⟩
              rw [afterLead?_eq_some_iff.1 hbuild]
              simp
  · rintro ⟨text, hnamed, rfl⟩
    cases hnamed with
    | same =>
        unfold readVersion
        rw [afterLead?_eq_some_iff.2 rfl]
    | @build base timestamp digits number hversion htimestamp hdigits hnumber =>
        have hs : (base ++ "-" ++ timestamp ++ "-" ++ digits).toList ++ rest =
            (base.toList ++ ['-']) ++ (timestamp.toList ++ '-' :: (digits.toList ++ rest)) := by
          simp
        have hother : afterLead? version.toList
            ((base ++ "-" ++ timestamp ++ "-" ++ digits).toList ++ rest) = none := by
          rw [Option.eq_none_iff_forall_not_mem]
          intro more hmore
          obtain ⟨c, time, htime, hc⟩ := Version.head_timestamp htimestamp
          have htail : snapshotTail.toList = ['-', 'S', 'N', 'A', 'P', 'S', 'H', 'O', 'T'] := by
            decide
          rw [Option.mem_def, afterLead?_eq_some_iff, hs, hversion, String.toList_append, htail,
            htime] at hmore
          simp at hmore
          rw [hmore.1] at hc
          exact absurd hc (by decide)
        have hne : digits.toList ≠ [] := by
          intro hnil
          rw [hnil] at hnumber
          cases hnumber
        unfold readVersion
        rw [hother]
        dsimp only
        rw [hversion, String.toList_append, beforeTail?_eq_some_iff.2 rfl]
        dsimp only
        rw [hs, afterLead?_eq_some_iff.2 rfl]
        dsimp only
        rw [readBuild?_eq_some_iff.2 ⟨rfl, htimestamp, hne, hdigits, hrest⟩]
        dsimp only
        rw [hnumber]
        simp only [String.ofList_toList]

theorem readEnding_eq_ok_iff {file : String} {s : List Char} {classifier : Option String}
    {extension : String} : readEnding file s = .ok (classifier, extension) ↔
      IsEnding classifier extension ∧
        s = (classifierPart classifier ++ "." ++ extension).toList := by
  constructor
  · intro h
    unfold readEnding at h
    dsimp only at h
    split at h
    · cases h
    · cases h
    · rename_i found extension' hne hsplit
      cases h
      have hextension : String.ofList extension' ≠ "" := by
        rw [Ne, ← String.toList_inj, String.toList_ofList]
        exact hne
      split at hsplit
      · split at hsplit
        · rename_i c classifier' extension'' hfirst
          cases hsplit
          obtain ⟨rfl, hdot⟩ := splitFirst_eq_some hfirst
          refine ⟨⟨?_, hextension⟩, by simp [classifierPart]⟩
          intro x hx
          cases hx
          rw [Ne, ← String.toList_inj, String.toList_ofList]
          exact ⟨List.cons_ne_nil _ _, hdot⟩
        · cases hsplit
      · cases hsplit
        exact ⟨⟨by simp, hextension⟩, by simp [classifierPart]⟩
      · cases hsplit
  · rintro ⟨⟨hclassifier, hextension⟩, rfl⟩
    obtain ⟨d, rest, hrest⟩ : ∃ d rest, extension.toList = d :: rest :=
      List.exists_cons_of_ne_nil (by simpa using hextension)
    have hwritten : String.ofList (d :: rest) = extension := by
      rw [← hrest, String.ofList_toList]
    cases classifier with
    | none =>
        have hs : (classifierPart none ++ "." ++ extension).toList = '.' :: d :: rest := by
          simp [classifierPart, hrest]
        rw [hs]
        simp only [readEnding, Option.map_none, hwritten]
    | some x =>
        obtain ⟨hx, hdot⟩ := hclassifier x rfl
        have hs : (classifierPart (some x) ++ "." ++ extension).toList =
            '-' :: (x.toList ++ '.' :: d :: rest) := by
          simp [classifierPart, hrest]
        have hfirst : splitFirst '.' (x.toList ++ '.' :: d :: rest) = some (x.toList, d :: rest) :=
          splitFirst_append hdot
        obtain ⟨c, more, hmore⟩ : ∃ c more, x.toList = c :: more :=
          List.exists_cons_of_ne_nil (by simpa using hx)
        rw [hs]
        simp only [readEnding, hfirst]
        rw [hmore]
        simp only [Option.map_some, hwritten, ← hmore, String.ofList_toList]

theorem readFileName_eq_ok_iff {file artifact version : String} {v : Version}
    {classifier : Option String} {extension : String} :
    readFileName file artifact version = .ok (v, classifier, extension) ↔
      IsEnding classifier extension ∧ ∃ text, IsNamed version v text ∧
        file = artifact ++ "-" ++ text ++ classifierPart classifier ++ "." ++ extension := by
  -- What follows the version begins with a dash or a dot, so it does not belong to a number.
  have hrest : ∀ c, (classifierPart classifier ++ "." ++ extension).toList.head? = some c →
      isDecimalDigit c = false := by
    intro c hc
    cases classifier with
    | none =>
        have hdot : '.' = c := by simpa [classifierPart] using hc
        rw [← hdot]
        decide
    | some x =>
        have hdash : '-' = c := by simpa [classifierPart] using hc
        rw [← hdash]
        decide
  constructor
  · intro h
    unfold readFileName at h
    split at h
    · cases h
    · rename_i s hlead
      cases hversion : readVersion file version s with
      | error e => simp [hversion, bind, Except.bind] at h
      | ok p =>
          obtain ⟨v', rest⟩ := p
          cases hread : readEnding file rest with
          | error e => simp [hversion, hread, bind, Except.bind] at h
          | ok p =>
              obtain ⟨classifier', extension'⟩ := p
              simp only [hversion, hread, bind, Except.bind, pure, Except.pure] at h
              cases h
              obtain ⟨hending, rfl⟩ := readEnding_eq_ok_iff.1 hread
              obtain ⟨text, hnamed, rfl⟩ := (readVersion_eq_ok_iff hrest).1 hversion
              refine ⟨hending, text, hnamed, ?_⟩
              rw [← String.toList_inj, afterLead?_eq_some_iff.1 hlead]
              simp
  · rintro ⟨hending, text, hnamed, rfl⟩
    have hlead : afterLead? (artifact.toList ++ ['-'])
        (artifact ++ "-" ++ text ++ classifierPart classifier ++ "." ++ extension).toList =
          some (text.toList ++ (classifierPart classifier ++ "." ++ extension).toList) := by
      rw [afterLead?_eq_some_iff]
      simp
    unfold readFileName
    rw [hlead]
    simp only [(readVersion_eq_ok_iff hrest).2 ⟨text, hnamed, rfl⟩,
      readEnding_eq_ok_iff.2 ⟨hending, rfl⟩, bind, Except.bind, pure, Except.pure]

theorem components?_eq_some_iff {path group artifact version file : List Char} :
    components? path = some (group, artifact, version, file) ↔
      path = group ++ '/' :: (artifact ++ '/' :: (version ++ '/' :: file)) ∧
        '/' ∉ artifact ∧ '/' ∉ version ∧ '/' ∉ file := by
  constructor
  · intro h
    simp only [components?, Option.bind_eq_bind, Option.bind_eq_some_iff] at h
    obtain ⟨⟨rest, file'⟩, hfile, ⟨rest', version'⟩, hversion, ⟨group', artifact'⟩, hartifact,
      heq⟩ := h
    cases heq
    obtain ⟨hpath, hfile⟩ := splitLast_eq_some hfile
    obtain ⟨hrest, hversion⟩ := splitLast_eq_some hversion
    obtain ⟨hrest', hartifact⟩ := splitLast_eq_some hartifact
    dsimp only at hrest hrest'
    refine ⟨?_, hartifact, hversion, hfile⟩
    rw [hpath, hrest, hrest']
    simp only [List.append_assoc, List.cons_append]
  · rintro ⟨rfl, hartifact, hversion, hfile⟩
    have hpath : group ++ '/' :: (artifact ++ '/' :: (version ++ '/' :: file)) =
        ((group ++ '/' :: artifact) ++ '/' :: version) ++ '/' :: file := by
      simp only [List.append_assoc, List.cons_append]
    rw [components?, hpath, splitLast_append hfile]
    simp only [Option.bind_eq_bind, Option.bind_some, splitLast_append hversion,
      splitLast_append hartifact]
    rfl

theorem toList_join (group artifact version file : String) :
    (join group artifact version file).toList = group.toList ++
      '/' :: (artifact.toList ++ '/' :: (version.toList ++ '/' :: file.toList)) := by
  simp [join]

theorem components?_join (group : String) {artifact version file : String}
    (hartifact : '/' ∉ artifact.toList) (hversion : '/' ∉ version.toList)
    (hfile : '/' ∉ file.toList) :
    components? (join group artifact version file).toList =
      some (group.toList, artifact.toList, version.toList, file.toList) :=
  components?_eq_some_iff.2 ⟨toList_join .., hartifact, hversion, hfile⟩

/-- The three last parts have no slashes, so a path says which parts it is made of. -/
theorem join_injective {group artifact version file group' artifact' version' file' : String}
    (hartifact : '/' ∉ artifact.toList) (hversion : '/' ∉ version.toList)
    (hfile : '/' ∉ file.toList) (hartifact' : '/' ∉ artifact'.toList)
    (hversion' : '/' ∉ version'.toList) (hfile' : '/' ∉ file'.toList)
    (h : join group artifact version file = join group' artifact' version' file') :
    group = group' ∧ artifact = artifact' ∧ version = version' ∧ file = file' := by
  have hparts := components?_join group hartifact hversion hfile
  rw [h, components?_join group' hartifact' hversion' hfile'] at hparts
  simp only [Option.some.injEq, Prod.mk.injEq, String.toList_inj] at hparts
  obtain ⟨rfl, rfl, rfl, rfl⟩ := hparts
  exact ⟨rfl, rfl, rfl, rfl⟩

theorem readPath_eq_ok_iff {p : String} {a : Artifact} :
    readPath p = .ok a ↔ ∃ group version text, IsSpelled a group version text ∧
      relative p = join group a.coordinates.artifact version (fileName a text) := by
  constructor
  · intro h
    unfold readPath at h
    dsimp only at h
    split at h
    · cases h
    · cases h
    · rename_i group artifact version file hgroup hcomponents
      obtain ⟨hpath, hartifact, hversion, hfile⟩ := components?_eq_some_iff.1 hcomponents
      cases hread : readFileName (String.ofList file) (String.ofList artifact)
          (String.ofList version) with
      | error e => simp [hread, bind, Except.bind] at h
      | ok q =>
          obtain ⟨v, classifier, extension⟩ := q
          simp only [hread, bind, Except.bind, pure, Except.pure] at h
          cases h
          obtain ⟨hending, text, hnamed, hname⟩ := readFileName_eq_ok_iff.1 hread
          refine ⟨String.ofList group, String.ofList version, text, ?_, ?_⟩
          · constructor
            · rw [Ne, ← String.toList_inj, String.toList_ofList]
              exact hgroup
            · rw [String.toList_ofList]
            · rwa [String.toList_ofList]
            · rwa [String.toList_ofList]
            · dsimp only [fileName]
              rwa [← hname, String.toList_ofList]
            · exact hnamed
            · exact hending
          · dsimp only [fileName]
            rw [relative, hpath, ← hname, ← String.toList_inj, toList_join]
            simp only [String.toList_ofList]
  · rintro ⟨group, version, text, hspelled, hpath⟩
    have hcomponents := components?_join group hspelled.artifact hspelled.directory
      hspelled.file
    rw [← hpath, relative, String.toList_ofList] at hcomponents
    have hread : readFileName (fileName a text) a.coordinates.artifact version =
        .ok (a.coordinates.version, a.classifier, a.extension) :=
      readFileName_eq_ok_iff.2 ⟨hspelled.ending, text, hspelled.version, rfl⟩
    have hgroup := hspelled.group
    obtain ⟨c, more, hmore⟩ : ∃ c more, group.toList = c :: more :=
      List.exists_cons_of_ne_nil (by simpa using hspelled.group_ne)
    rw [hmore] at hgroup hcomponents
    unfold readPath
    simp only [hcomponents, String.ofList_toList, hread, bind, Except.bind, pure, Except.pure,
      ← hgroup]

end Depot.Layout
