import Depot.Proofs.Containment
import Depot.Proofs.LayoutGrammar

/-!
The names that a file of the layout is found under. The dots of a group become slashes, so no name
in it goes up, but one that begins with a dot makes the whole path begin at the top. Artifact ids,
versions and what metadata says about builds are taken as they are.
-/

namespace Depot

open Text

namespace Text.Utf8

/-- Characters of ASCII are found in their places, and nowhere else. -/
theorem mem_utf8EncodeChar {b : UInt8} (hb : b.toNat < 0x80) {c : Char} :
    b ∈ String.utf8EncodeChar c ↔ c.toNat = b.toNat := by
  have hc : c.toNat = c.val.toNat := rfl
  rw [hc]
  unfold String.utf8EncodeChar
  dsimp only
  split
  · simp only [List.mem_singleton, ← UInt8.toNat_inj, UInt8.toNat_ofNat']
    omega
  · repeat' split
    all_goals
      simp only [List.mem_cons, List.not_mem_nil, or_false, ← UInt8.toNat_inj, UInt8.toNat_ofNat']
      omega

theorem encode_append (s t : String) : encode (s ++ t) = encode s ++ encode t := by
  simp [encode]

theorem encode_injective {s t : String} (h : encode s = encode t) : s = t := by
  rw [← String.ofList_toList (s := s), ← String.ofList_toList (s := t), ← String.toByteArray_inj,
    String.toByteArray_ofList, String.toByteArray_ofList, List.utf8Encode, List.utf8Encode]
  exact congrArg List.toByteArray h

theorem mem_encode {b : UInt8} (hb : b.toNat < 0x80) {c : Char} (hc : c.toNat = b.toNat)
    {s : String} : b ∈ encode s ↔ c ∈ s.toList := by
  rw [encode, List.mem_flatMap]
  constructor
  · rintro ⟨d, hd, hbd⟩
    rw [mem_utf8EncodeChar hb, ← hc] at hbd
    exact Char.toNat_inj.1 hbd ▸ hd
  · intro h
    exact ⟨c, h, (mem_utf8EncodeChar hb).2 hc⟩

theorem slash_mem_encode {s : String} : Files.slash ∈ encode s ↔ '/' ∈ s.toList :=
  mem_encode (by decide) (by decide)

theorem head?_encode {s : String} :
    (encode s).head? = some Files.slash ↔ s.toList.head? = some '/' := by
  unfold encode
  cases s.toList with
  | nil => simp
  | cons c rest =>
      rw [List.flatMap_cons, List.head?_append_of_ne_nil _ String.utf8EncodeChar_ne_nil,
        List.head?_cons, Option.some.injEq]
      constructor
      · intro h
        have hmem := List.mem_of_head? h
        rw [mem_utf8EncodeChar (by decide)] at hmem
        exact Char.toNat_inj.1 hmem
      · rintro rfl
        decide

end Text.Utf8

namespace Layout

open Utf8

/-- The names in a piece of a path. -/
def names (s : String) : List Bytes := Files.names (encode s)

theorem names_append (s t : String) : names (s ++ "/" ++ t) = names s ++ names t := by
  have hslash : encode "/" = [Files.slash] := by decide
  rw [names, encode_append, encode_append, hslash, List.append_assoc, List.singleton_append,
    Files.names_append]
  rfl

theorem names_eq_singleton {s : String} (h : '/' ∉ s.toList) : names s = [encode s] :=
  Files.names_eq_singleton (mt slash_mem_encode.1 h)

/-- A file or directory below that of an artifact, or that directory itself. -/
structure Location where
  groupArtifact : GroupArtifact
  below : List String := []

def Location.path (l : Location) : String :=
  l.below.foldl (fun path part => path ++ "/" ++ part) (directory l.groupArtifact)

def groupPath (group : String) : String := String.ofList (replaceChar '.' '/' group.toList)

/-- How many directories deep a group is. -/
def level (group : String) : Nat := (names (groupPath group)).countP fun name => !name.isEmpty

/-- A group that neither is empty nor begins with what becomes a slash. -/
def beginsBelow (group : String) : Prop :=
  ∃ c, group.toList.head? = some c ∧ c ≠ '.' ∧ c ≠ '/'

/-- What has to hold of group, artifact id and all that is below for the path to stay below every
directory that it is joined to. -/
def Location.IsContained (l : Location) : Prop :=
  beginsBelow l.groupArtifact.group ∧
    Files.descends (level l.groupArtifact.group)
      (names l.groupArtifact.artifact ++ l.below.flatMap names)

theorem exists_foldl_eq_append (below : List String) (s : String) :
    ∃ t, below.foldl (fun path part => path ++ "/" ++ part) s = s ++ t := by
  induction below generalizing s with
  | nil => exact ⟨"", by simp⟩
  | cons part below ih =>
      obtain ⟨t, ht⟩ := ih (s ++ "/" ++ part)
      exact ⟨"/" ++ part ++ t, by rw [List.foldl_cons, ht]; simp only [String.append_assoc]⟩

theorem names_foldl (below : List String) (s : String) :
    names (below.foldl (fun path part => path ++ "/" ++ part) s) =
      names s ++ below.flatMap names := by
  induction below generalizing s with
  | nil => simp
  | cons part below ih =>
      rw [List.foldl_cons, ih, names_append, List.flatMap_cons, List.append_assoc]

theorem names_path (l : Location) : names l.path =
    names (groupPath l.groupArtifact.group) ++
      (names l.groupArtifact.artifact ++ l.below.flatMap names) := by
  rw [Location.path, names_foldl, ← List.append_assoc, ← names_append]
  rfl

theorem head?_path (l : Location) :
    (encode l.path).head? ≠ some Files.slash ↔ beginsBelow l.groupArtifact.group := by
  obtain ⟨t, ht⟩ := exists_foldl_eq_append l.below (directory l.groupArtifact)
  rw [Location.path, ht, Ne, head?_encode, directory, beginsBelow]
  simp only [String.toList_append, String.toList_ofList, List.append_assoc]
  cases l.groupArtifact.group.toList with
  | nil => simp [replaceChar]
  | cons c rest =>
      simp only [replaceChar, List.map_cons, List.cons_append, List.head?_cons, Option.some.injEq,
        exists_eq_left']
      split <;> simp_all

/-- Where no name has a dot, none goes up. -/
theorem descends_append {ns : List Bytes} (h : ∀ name ∈ ns, (0x2E : UInt8) ∉ name) (depth : Nat)
    (rest : List Bytes) : Files.descends depth (ns ++ rest) =
      Files.descends (depth + ns.countP fun name => !name.isEmpty) rest := by
  induction ns generalizing depth with
  | nil => rfl
  | cons name ns ih =>
      have ih := ih fun name hname => h name (List.mem_cons_of_mem _ hname)
      have hname := h name List.mem_cons_self
      cases name with
      | nil => simpa [Files.descends] using ih depth
      | cons b name =>
          rw [List.mem_cons, not_or] at hname
          have hb : (b == 0x2E) = false := by simpa using Ne.symm hname.1
          rw [List.cons_append, Files.descends, List.countP_cons_of_pos (by rfl), ← Nat.add_assoc,
            Nat.add_right_comm, ← ih]
          simp [hb]

theorem not_mem_names_groupPath (group : String) :
    ∀ name ∈ names (groupPath group), (0x2E : UInt8) ∉ name := by
  intro name hname hdot
  have hmem := Files.mem_of_mem_names hname hdot
  rw [mem_encode (c := '.') (by decide) (by decide), groupPath, String.toList_ofList,
    replaceChar, List.mem_map] at hmem
  obtain ⟨c, -, hc⟩ := hmem
  split at hc
  · cases hc
  · rename_i hne
    exact hne hc

theorem isContained_path_iff (l : Location) :
    Files.IsContained (encode l.path) ↔ l.IsContained := by
  have hnames := descends_append (not_mem_names_groupPath l.groupArtifact.group) 0
    (names l.groupArtifact.artifact ++ l.below.flatMap names)
  rw [← names_path, Nat.zero_add] at hnames
  exact and_congr (head?_path l) (iff_of_eq (congrArg (· = true) hnames))

/-- Parts that were read off a path lie between its slashes, and no slash is before the first. -/
structure IsFlat (a : Artifact) : Prop where
  group : ∃ c, a.coordinates.group.toList.head? = some c ∧ c ≠ '/'
  artifact : '/' ∉ a.coordinates.artifact.toList
  directory : '/' ∉ a.coordinates.version.directory.toList
  classifier : ∀ s, a.classifier = some s → '/' ∉ s.toList
  extension : '/' ∉ a.extension.toList

/-- What is read off a path is flat. -/
theorem isFlat_of_readPath {path : String} {a : Artifact} (h : readPath path = .ok a) :
    IsFlat a := by
  obtain ⟨group, version, text, hspelled, hpath⟩ := readPath_eq_ok_iff.1 h
  obtain ⟨-, -, hclassifier, hextension⟩ := slash_notMem_fileName.1 hspelled.file
  refine ⟨?_, hspelled.artifact, hspelled.version.slash_notMem_directory hspelled.directory,
    hclassifier, hextension⟩
  obtain ⟨c, rest, hgroup⟩ : ∃ c rest, group.toList = c :: rest :=
    List.exists_cons_of_ne_nil (mt String.toList_eq_nil_iff.1 hspelled.group_ne)
  have hhead := List.head?_dropWhile_not (· == '/') path.toList
  have hrelative := congrArg String.toList hpath
  rw [relative, String.toList_ofList, toList_join, hgroup, List.cons_append] at hrelative
  rw [hrelative] at hhead
  have hc : c ≠ '/' := by simpa using hhead
  refine ⟨c, ?_, hc⟩
  rw [hspelled.group, String.toList_ofList, hgroup, replaceChar, List.map_cons, List.head?_cons,
    if_neg hc]

theorem level_pos {group : String} (h : beginsBelow group) : 0 < level group := by
  obtain ⟨c, hc, hdot, hslash⟩ := h
  obtain ⟨rest, hrest⟩ := List.head?_eq_some_iff.1 hc
  have hgroup : (groupPath group).toList = c :: replaceChar '.' '/' rest := by
    simp [groupPath, replaceChar, hrest, hdot]
  -- The first name is not empty, since the group does not begin with a slash.
  have hhead : (encode (groupPath group)).head? ≠ some Files.slash := by
    rw [Ne, head?_encode, hgroup]
    simpa using hslash
  have hne : encode (groupPath group) ≠ [] := by
    rw [encode, hgroup, List.flatMap_cons]
    exact List.append_ne_nil_of_left_ne_nil String.utf8EncodeChar_ne_nil _
  obtain ⟨b, bytes, hbytes⟩ := List.exists_cons_of_ne_nil hne
  have hb : b ≠ Files.slash := by simpa [hbytes] using hhead
  rw [level, names, hbytes, Files.names, if_neg hb]
  split
  · simp
  · simp

/-- Two names that go up lead out of a group of one directory; nothing else in front of the name of
a file leads out of any. -/
theorem descends_iff {depth : Nat} (hdepth : 0 < depth) (a b : Bytes) {file : Bytes}
    (hfile : (0x2D : UInt8) ∈ file) : Files.descends depth [a, b, file] ↔
      ¬(a = [0x2E, 0x2E] ∧ b = [0x2E, 0x2E] ∧ depth = 1) := by
  have hlast (depth : Nat) : Files.descends depth [file] := by
    have hup : file ≠ [0x2E, 0x2E] := by
      rintro rfl
      exact absurd hfile (by decide)
    obtain ⟨deeper, -, heq⟩ := Files.exists_descends_cons hup depth []
    rw [heq]
    rfl
  have hsecond {depth : Nat} (hdepth : 0 < depth) : Files.descends depth [b, file] := by
    by_cases hb : b = [0x2E, 0x2E]
    · rw [hb, Files.descends_up, hlast, decide_eq_true hdepth]
      rfl
    · obtain ⟨deeper, -, heq⟩ := Files.exists_descends_cons hb depth [file]
      rw [heq]
      exact hlast deeper
  by_cases ha : a = [0x2E, 0x2E]
  · rw [ha, Files.descends_up, decide_eq_true hdepth, Bool.true_and]
    by_cases hb : b = [0x2E, 0x2E]
    · rw [hb, Files.descends_up, hlast, Bool.and_true, decide_eq_true_eq]
      simp only [true_and]
      omega
    · obtain ⟨deeper, -, heq⟩ := Files.exists_descends_cons hb (depth - 1) [file]
      rw [heq]
      exact iff_of_true (hlast deeper) fun h => hb h.2.1
  · obtain ⟨deeper, hdeeper, heq⟩ := Files.exists_descends_cons ha depth [b, file]
    rw [heq]
    exact iff_of_true (hsecond (Nat.lt_of_lt_of_le hdepth hdeeper)) fun h => ha h.1

/-- For a flat artifact there are two ways out: a group that begins with a dot, and artifact id and
version that both go up in a group of one directory. -/
theorem isContained_iff_of_isFlat {a : Artifact} (h : IsFlat a) {name : String}
    (hname : '/' ∉ name.toList) (hdash : '-' ∈ name.toList) :
    Location.IsContained ⟨a.coordinates.groupArtifact, [a.coordinates.version.directory, name]⟩ ↔
      a.coordinates.group.toList.head? ≠ some '.' ∧
        ¬(a.coordinates.artifact = ".." ∧ a.coordinates.version.directory = ".." ∧
          level a.coordinates.group = 1) := by
  have hbegins : beginsBelow a.coordinates.group ↔ a.coordinates.group.toList.head? ≠ some '.' := by
    obtain ⟨c, hc, hslash⟩ := h.group
    simp [beginsBelow, hc, hslash]
  have hup (s : String) : encode s = [0x2E, 0x2E] ↔ s = ".." := by
    refine ⟨fun heq => encode_injective (heq.trans (by decide)), ?_⟩
    rintro rfl
    decide
  unfold Location.IsContained
  dsimp only [Coordinates.groupArtifact]
  rw [names_eq_singleton h.artifact, List.flatMap_cons, List.flatMap_cons, List.flatMap_nil,
    names_eq_singleton h.directory, names_eq_singleton hname, hbegins]
  refine and_congr_right fun hhead => ?_
  exact (descends_iff (level_pos (hbegins.2 hhead)) _ _
    ((mem_encode (c := '-') (by decide) (by decide)).2 hdash)).trans (by rw [hup, hup])

end Layout

end Depot
