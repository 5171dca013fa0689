import Depot.Metadata.Document
import Depot.Proofs.FieldOrder
import Depot.Proofs.VersionText
import Depot.Proofs.WrittenBytes

/-!
Metadata documents: what is written is what is read. Elements that may be missing may be missing,
those beside each other can stand in any order, and lists keep the order of their items.
-/

namespace Depot.Metadata.Document

open Markup Text

def ShowsText (s : String) (c : Content) : Prop := c = .text s .done

def ShowsNumber (n : UInt32) (c : Content) : Prop := ShowsText (Natural.write n.toNat) c

def ShowsFlag (b : Bool) (c : Content) : Prop := ShowsText (if b then "true" else "false") c

def Snapshot.Shows (s : Snapshot) : Content → Prop :=
  Content.InAnyOrder [ifAny "timestamp" ShowsText s.timestamp,
    ifAny "buildNumber" ShowsNumber s.buildNumber, ifAny "localCopy" ShowsFlag s.localCopy].flatten

def ShowsFile (f : SnapshotFile) : Content → Prop :=
  Content.InAnyOrder [ifAny "classifier" ShowsText f.classifier,
    ifAny "extension" ShowsText (some f.extension), ifAny "value" ShowsText (some f.value),
    ifAny "updated" ShowsText f.updated].flatten

/-- An element for each item, and nothing else. -/
def ShowsList {α : Type} (item : String) (Shows : α → Content → Prop) (as : List α) :
    Content → Prop :=
  Content.InOrder (each item Shows as)

def Versioning.Shows (v : Versioning) : Content → Prop :=
  Content.InAnyOrder [ifAny "latest" ShowsText v.latest, ifAny "release" ShowsText v.release,
    ifAny "versions" (ShowsList "version" ShowsText) v.versions,
    ifAny "lastUpdated" ShowsText v.lastUpdated, ifAny "snapshot" Snapshot.Shows v.snapshot,
    ifAny "snapshotVersions" (ShowsList "snapshotVersion" ShowsFile) v.files].flatten

def Root.Shows (r : Root) : Content → Prop :=
  Content.InAnyOrder [ifAny "groupId" ShowsText r.group, ifAny "artifactId" ShowsText r.artifact,
    ifAny "version" ShowsText r.version, ifAny "versioning" Versioning.Shows r.versioning].flatten

/-- A document that says this. -/
def Root.IsDocument (r : Root) (text : String) : Prop :=
  ∃ inner, r.Shows inner ∧ WritesDocument "metadata" inner text.toList

theorem read_text (s : String) (c : Content) (h : ShowsText s c) :
    Reader.text (.element [] c) = .ok s := by
  rw [h]
  rfl

theorem read_natural (n : UInt32) (c : Content) (h : ShowsNumber n c) :
    Reader.natural (.element [] c) = .ok n := by
  have hnumber : Reader.number (Natural.write n.toNat) = .ok n := by
    rw [Reader.number, Natural.read_write n.toNat_lt_size]
    simp
  rw [h]
  exact hnumber

theorem read_flag (b : Bool) (c : Content) (h : ShowsFlag b c) :
    Reader.flag (.element [] c) = .ok b := by
  rw [h]
  cases b <;> rfl

theorem read_snapshot (s : Snapshot) (c : Content) (h : s.Shows c) :
    snapshot (.element [] c) = .ok s := by
  obtain ⟨timestamp, buildNumber, localCopy⟩ := s
  refine Fields.record_of_reads ["timestamp", "buildNumber", "localCopy"] (by decide) h ?_ ?_ ?_
  -- Each function is the record with the fields read so far, and the next one open.
  · exact .ifAny (fun t => ⟨t, none, none⟩) rfl (fun _ => rfl) rfl read_text rfl <|
      .ifAny (fun n => ⟨timestamp, n, none⟩) rfl (fun _ => rfl) rfl read_natural rfl <|
      .ifAny (fun l => ⟨timestamp, buildNumber, l⟩) rfl (fun _ => rfl) rfl read_flag rfl <| .nil _
  · simp
  · simp [Field.single]

theorem read_file (f : SnapshotFile) (c : Content) (h : ShowsFile f c) :
    file (.element [] c) = .ok f := by
  obtain ⟨classifier, extension, value, updated⟩ := f
  refine (Fields.record_of_reads (r := ⟨classifier, some extension, some value, updated⟩)
    ["classifier", "extension", "value", "updated"] (by decide) h ?_ ?_ ?_).trans rfl
  · exact .ifAny (fun c => ⟨c, none, none, none⟩) rfl (fun _ => rfl) rfl read_text rfl <|
      .ifAny (fun e => ⟨classifier, e, none, none⟩) rfl (fun _ => rfl) rfl read_text rfl <|
      .ifAny (fun v => ⟨classifier, some extension, v, none⟩) rfl (fun _ => rfl) rfl read_text
        rfl <|
      .ifAny (fun u => ⟨classifier, some extension, some value, u⟩) rfl (fun _ => rfl) rfl read_text
        rfl <| .nil _
  · simp
  · simp [Field.single]

theorem read_list {kind item : String} {α : Type} {read : Reader α} {Shows : α → Content → Prop}
    (hread : ∀ a inner, Shows a inner → read (.element [] inner) = .ok a) (as : List α)
    (c : Content) (h : ShowsList item Shows as c) :
    listOf kind item read (.element [] c) = .ok as := by
  obtain ⟨children, rfl, hshows⟩ := h
  have hempty : (none : Option (List α)).isSome → none = some (ElementName.plain item) := nofun
  obtain ⟨bs?, hbs, hlist⟩ := addContent_itemFields hread hshows hempty
  rw [listOf, Reader.record, Fields.addAttributes, List.foldlM_nil]
  change ((itemFields item read).addContent none none (.elements _) >>= _) = _
  rw [hbs]
  exact congrArg Except.ok hlist

theorem read_versioning (v : Versioning) (c : Content) (h : v.Shows c) :
    versioning (.element [] c) = .ok v := by
  obtain ⟨latest, release, versions, lastUpdated, snapshot, files⟩ := v
  refine Fields.record_of_reads ["latest", "release", "versions", "lastUpdated", "snapshot",
    "snapshotVersions"] (by decide) h ?_ ?_ ?_
  · exact .ifAny (fun a => ⟨a, none, none, none, none, none⟩) rfl (fun _ => rfl) rfl read_text
        rfl <|
      .ifAny (fun a => ⟨latest, a, none, none, none, none⟩) rfl (fun _ => rfl) rfl read_text rfl <|
      .ifAny (fun a => ⟨latest, release, a, none, none, none⟩) rfl (fun _ => rfl) rfl
        (read_list read_text) rfl <|
      .ifAny (fun a => ⟨latest, release, versions, a, none, none⟩) rfl (fun _ => rfl) rfl read_text
        rfl <|
      .ifAny (fun a => ⟨latest, release, versions, lastUpdated, a, none⟩) rfl (fun _ => rfl) rfl
        read_snapshot rfl <|
      .ifAny (fun a => ⟨latest, release, versions, lastUpdated, snapshot, a⟩) rfl (fun _ => rfl) rfl
        (read_list read_file) rfl <| .nil _
  · simp
  · simp [Field.single]

theorem read_root (r : Root) (c : Content) (h : r.Shows c) : root (.element [] c) = .ok r := by
  obtain ⟨group, artifact, version, versioning⟩ := r
  refine Fields.record_of_reads ["groupId", "artifactId", "version", "versioning"] (by decide) h
    ?_ ?_ ?_
  · exact .ifAny (fun a => ⟨a, none, none, none⟩) rfl (fun _ => rfl) rfl read_text rfl <|
      .ifAny (fun a => ⟨group, a, none, none⟩) rfl (fun _ => rfl) rfl read_text rfl <|
      .ifAny (fun a => ⟨group, artifact, a, none⟩) rfl (fun _ => rfl) rfl read_text rfl <|
      .ifAny (fun a => ⟨group, artifact, version, a⟩) rfl (fun _ => rfl) rfl read_versioning rfl <|
      .nil _
  · simp
  · simp [Field.single]

/-- All texts can be written. -/
structure Versioning.IsPlain (v : Versioning) : Prop where
  latest : ∀ s ∈ v.latest, Markup.IsPlain s
  release : ∀ s ∈ v.release, Markup.IsPlain s
  versions : ∀ list ∈ v.versions, ∀ s ∈ list, Markup.IsPlain s
  lastUpdated : ∀ s ∈ v.lastUpdated, Markup.IsPlain s
  timestamp : ∀ build ∈ v.snapshot, ∀ s ∈ build.timestamp, Markup.IsPlain s
  files : ∀ list ∈ v.files, ∀ f ∈ list, (∀ s ∈ f.classifier, Markup.IsPlain s) ∧
    Markup.IsPlain f.extension ∧ Markup.IsPlain f.value ∧ ∀ s ∈ f.updated, Markup.IsPlain s

structure Root.IsPlain (r : Root) : Prop where
  group : ∀ s ∈ r.group, Markup.IsPlain s
  artifact : ∀ s ∈ r.artifact, Markup.IsPlain s
  version : ∀ s ∈ r.version, Markup.IsPlain s
  versioning : ∀ v ∈ r.versioning, v.IsPlain

theorem writable_text {s : String} (h : Markup.IsPlain s) : Writable (ShowsText s) :=
  ⟨_, _, rfl, .text h⟩

theorem isPlain_write (n : Nat) : Markup.IsPlain (Natural.write n) := by
  refine ⟨Natural.toList_write_ne_nil n, fun c hc => ?_⟩
  have hdigit := Natural.isDigit_of_mem_write hc
  rw [Char.isDigit, Bool.and_eq_true, decide_eq_true_eq, decide_eq_true_eq] at hdigit
  exact ⟨Nat.le_trans (by decide) hdigit.1, Nat.le_trans hdigit.2 (by decide)⟩

theorem writable_snapshot {s : Snapshot} (h : ∀ t ∈ s.timestamp, Markup.IsPlain t) :
    Writable s.Shows := by
  refine writable_inAnyOrder ?_
  simp only [List.flatten_cons, List.flatten_nil, List.forall_mem_append, forall_mem_ifAny]
  refine ⟨fun t ht => ⟨by decide, writable_text (h t ht)⟩, fun n _ => ⟨by decide, ?_⟩,
    fun b _ => ⟨by decide, ?_⟩, List.forall_mem_nil _⟩
  · exact writable_text (isPlain_write _)
  · cases b <;> exact writable_text (by decide)

theorem writable_file {f : SnapshotFile} (h : (∀ s ∈ f.classifier, Markup.IsPlain s) ∧
    Markup.IsPlain f.extension ∧ Markup.IsPlain f.value ∧ ∀ s ∈ f.updated, Markup.IsPlain s) :
    Writable (ShowsFile f) := by
  refine writable_inAnyOrder ?_
  simp only [List.flatten_cons, List.flatten_nil, List.forall_mem_append, forall_mem_ifAny]
  obtain ⟨hclassifier, hextension, hvalue, hupdated⟩ := h
  refine ⟨fun s hs => ⟨by decide, writable_text (hclassifier s hs)⟩, fun s hs => ⟨by decide, ?_⟩,
    fun s hs => ⟨by decide, ?_⟩, fun s hs => ⟨by decide, writable_text (hupdated s hs)⟩,
    List.forall_mem_nil _⟩
  · cases hs
    exact writable_text hextension
  · cases hs
    exact writable_text hvalue

theorem writable_list {α : Type} {item : String} {Shows : α → Content → Prop} {as : List α}
    (hitem : IsWord item.toList) (h : ∀ a ∈ as, Writable (Shows a)) :
    Writable (ShowsList item Shows as) :=
  writable_inOrder (forall_mem_each.2 fun a ha => ⟨hitem, h a ha⟩)

theorem writable_versioning {v : Versioning} (h : v.IsPlain) : Writable v.Shows := by
  refine writable_inAnyOrder ?_
  simp only [List.flatten_cons, List.flatten_nil, List.forall_mem_append, forall_mem_ifAny]
  refine ⟨fun s hs => ⟨by decide, writable_text (h.latest s hs)⟩,
    fun s hs => ⟨by decide, writable_text (h.release s hs)⟩, fun list hlist => ⟨by decide, ?_⟩,
    fun s hs => ⟨by decide, writable_text (h.lastUpdated s hs)⟩,
    fun build hbuild => ⟨by decide, writable_snapshot (h.timestamp build hbuild)⟩,
    fun list hlist => ⟨by decide, ?_⟩, List.forall_mem_nil _⟩
  · exact writable_list (by decide) fun s hs => writable_text (h.versions list hlist s hs)
  · exact writable_list (by decide) fun f hf => writable_file (h.files list hlist f hf)

theorem exists_document {r : Root} (h : r.IsPlain) : ∃ text, r.IsDocument text := by
  have hwritable : Writable r.Shows := by
    refine writable_inAnyOrder ?_
    simp only [List.flatten_cons, List.flatten_nil, List.forall_mem_append, forall_mem_ifAny]
    exact ⟨fun s hs => ⟨by decide, writable_text (h.group s hs)⟩,
      fun s hs => ⟨by decide, writable_text (h.artifact s hs)⟩,
      fun s hs => ⟨by decide, writable_text (h.version s hs)⟩,
      fun v hv => ⟨by decide, writable_versioning (h.versioning v hv)⟩, List.forall_mem_nil _⟩
  obtain ⟨inner, s, hshows, hs⟩ := hwritable
  have hdocument : Writes (.element (.plain "metadata") [] inner .done) _ :=
    .element (List.forall_mem_nil _) (by decide) hs (.done (List.forall_mem_nil _))
  refine ⟨String.ofList _, inner, hshows, _, hdocument, .inl String.toList_ofList⟩

theorem read_document {r : Root} {text : String} (h : r.IsDocument text) :
    Reader.document root (Utf8.encode text) = .ok r := by
  obtain ⟨inner, hshows, hwrites⟩ := h
  have hcontent := Content.ofBytes_writesDocument hwrites
  rw [String.ofList_toList] at hcontent
  rw [Reader.document, hcontent]
  exact read_root r inner hshows

/-- What a document says is what is read from it: repeated versions once, at their first occurrence,
absent ids as empty texts, and a snapshot only if there is a timestamp. -/
theorem ofBytes_document (r : Root) (h : r.IsPlain) :
    (∃ text, r.IsDocument text) ∧ ∀ text, r.IsDocument text →
      Metadata.ofBytes (Utf8.encode text) = .ok {
        group := r.group.getD ""
        artifact := r.artifact.getD ""
        version := r.version
        latest := r.versioning.bind (·.latest)
        release := r.versioning.bind (·.release)
        versions := ((r.versioning.bind (·.versions)).getD []).eraseDups
        snapshot := (r.versioning.bind (·.snapshot)).bind fun build =>
          build.timestamp.map fun timestamp => ⟨timestamp, build.buildNumber⟩
        snapshotFiles := (r.versioning.bind (·.files)).getD []
        lastUpdated := r.versioning.bind (·.lastUpdated) } := by
  refine ⟨exists_document h, fun text htext => ?_⟩
  rw [Metadata.ofBytes, read_document htext]
  obtain ⟨group, artifact, version, versioning⟩ := r
  cases versioning <;> rfl

/-- A version that is listed twice, and a build without a timestamp. -/
theorem ofBytes_document_of_repeated :
    let f : SnapshotFile := ⟨none, "jar", "1-2", some "3"⟩
    let v : Versioning := {
      versions := some ["<1>", "2", "<1>"], snapshot := some { buildNumber := some 7 },
      files := some [f] }
    ∃ text, Root.IsDocument { artifact := some "a&b", versioning := some v } text ∧
      Metadata.ofBytes (Utf8.encode text) = .ok {
        group := "", artifact := "a&b", versions := ["<1>", "2"], snapshotFiles := [f] } := by
  intro f v
  have hplain : Root.IsPlain { artifact := some "a&b", versioning := some v } := by
    refine ⟨by decide, by decide, by decide, fun v' hv' => ?_⟩
    cases hv'
    exact ⟨by decide, by decide, by decide, by decide, by decide, by decide⟩
  obtain ⟨⟨text, htext⟩, hread⟩ := ofBytes_document _ hplain
  exact ⟨text, htext, hread text htext⟩

end Depot.Metadata.Document
