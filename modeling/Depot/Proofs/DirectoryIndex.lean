import Depot.Proofs.MergedForm
import Depot.Proofs.RepairedText
import Mathlib.Data.List.Infix

/-!
What the page of a directory is read as. The text that begins a reference does not overlap with
itself, so no text between two references can hide the second one.
-/

namespace Depot

namespace Repository.Index

open Text

/-- What a reference can name. -/
structure IsName (name : List Char) : Prop where
  nonempty : name ≠ []
  plain : ∀ c ∈ name, c ∉ ['"', '/', '?', '#', ':']

/-- Text in which no reference begins. -/
def IsFiller (text : List Char) : Prop := ¬lead <:+: text

instance : DecidablePred IsFiller := fun text => inferInstanceAs (Decidable ¬lead <:+: text)

variable {c : Char} {s name after filler f g : List Char}

theorem isName_iff : IsName name ↔ (!name.isEmpty && name.all isNameChar) = true := by
  rw [Bool.and_eq_true, List.all_eq_true]
  constructor
  · rintro ⟨hne, hplain⟩
    exact ⟨by simpa using hne, fun c hc => decide_eq_true (hplain c hc)⟩
  · rintro ⟨hne, hplain⟩
    exact ⟨by simpa using hne, fun c hc => of_decide_eq_true (hplain c hc)⟩

instance : DecidablePred IsName := fun _ => decidable_of_iff' _ isName_iff

theorem link?_eq_none (h : ¬lead <+: s) : link? s = none := by
  have hnone : afterLead? lead s = none := by
    refine Option.eq_none_iff_forall_ne_some.2 fun rest hrest => h ⟨rest, ?_⟩
    exact (afterLead?_eq_some_iff.1 hrest).symm
  rw [link?, hnone]

theorem link?_eq_some_iff :
    link? s = some (name, after) ↔ s = lead ++ (name ++ '/' :: '"' :: after) ∧ IsName name := by
  constructor
  · intro h
    unfold link? at h
    split at h
    · cases h
    · rename_i rest hrest
      obtain rfl := afterLead?_eq_some_iff.1 hrest
      dsimp only at h
      split at h
      · rename_i hname hdrop
        simp only [Option.some.injEq, Prod.mk.injEq] at h
        obtain ⟨hname', rfl⟩ := h
        have hsplit : rest.takeWhile isNameChar ++ rest.drop (rest.takeWhile isNameChar).length =
            rest := List.prefix_iff_eq_append.1 (List.takeWhile_prefix isNameChar)
        rw [hdrop] at hsplit
        subst hname'
        refine ⟨by rw [hsplit], ?_, fun c hc => ?_⟩
        · rw [hname]
          exact List.cons_ne_nil _ _
        · have hplain : isNameChar c = true := List.mem_takeWhile_imp hc
          exact of_decide_eq_true hplain
      · cases h
  · rintro ⟨rfl, hname⟩
    have hrest := afterLead?_eq_some_iff.2 (rfl : lead ++ (name ++ '/' :: '"' :: after) = _)
    have htake : (name ++ '/' :: '"' :: after).takeWhile isNameChar = name := by
      have hall : ∀ c ∈ name, isNameChar c = true := fun c hc => decide_eq_true (hname.plain c hc)
      rw [List.takeWhile_append_of_pos hall, List.takeWhile_cons_of_neg (by decide),
        List.append_nil]
    rw [link?, hrest]
    dsimp only
    rw [htake, List.drop_left]
    obtain ⟨c, rest, rfl⟩ := List.exists_cons_of_ne_nil hname.nonempty
    rfl

theorem links_of_link? (h : link? s = some (name, after)) : links s = name :: links after := by
  cases s with
  | nil => cases h
  | cons c rest =>
      rw [links]
      split
      · rename_i hfound
        rw [hfound] at h
        cases h
        rfl
      · rename_i hfound
        rw [hfound] at h
        cases h

theorem links_cons (h : ¬lead <+: c :: s) : links (c :: s) = links s := by
  rw [links]
  split
  · rename_i hfound
    rw [link?_eq_none h] at hfound
    cases hfound
  · rfl

/-- The first character of the lead does not occur in it again. -/
theorem lead_ne_append (c : Char) (f g : List Char) : lead ≠ c :: f ++ 'h' :: g := by
  intro h
  have htail : 'h' ∉ lead.tail := by decide
  rw [h] at htail
  simp at htail

theorem IsFiller.of_cons (h : IsFiller (c :: filler)) : IsFiller filler := fun hlead =>
  h (hlead.trans (List.suffix_cons c filler).isInfix)

/-- A lead that begins within a filler would go on in the lead behind the filler. -/
theorem IsFiller.not_lead_prefix (h : IsFiller (c :: filler)) (after : List Char) :
    ¬lead <+: c :: filler ++ (lead ++ after) := by
  intro hlead
  have hfiller : c :: filler <+: c :: filler ++ (lead ++ after) := List.prefix_append _ _
  rcases Nat.le_total lead.length (c :: filler).length with hlong | hshort
  · exact h (List.prefix_of_prefix_length_le hlead hfiller hlong).isInfix
  · obtain ⟨g, hg⟩ := List.prefix_of_prefix_length_le hfiller hlead hshort
    cases g with
    | nil =>
        rw [List.append_nil] at hg
        exact h (hg ▸ List.infix_refl _)
    | cons d g =>
        have hagain : c :: filler ++ d :: g <+: c :: filler ++ (lead ++ after) := by
          rw [hg]
          exact hlead
        have hd : d :: g <+: lead ++ after := (List.prefix_append_right_inj _).1 hagain
        obtain rfl : d = 'h' := (List.cons_prefix_cons.1 hd).1
        exact lead_ne_append c filler g hg.symm

theorem links_filler (hfiller : IsFiller filler) : links filler = [] := by
  induction filler with
  | nil => rw [links]
  | cons c filler ih =>
      rw [IsFiller, List.infix_cons_iff, not_or] at hfiller
      rw [links_cons hfiller.1, ih hfiller.2]

theorem links_filler_append (hfiller : IsFiller filler) (after : List Char) :
    links (filler ++ (lead ++ after)) = links (lead ++ after) := by
  induction filler with
  | nil => rfl
  | cons c filler ih =>
      have hlead := hfiller.not_lead_prefix after
      rw [List.cons_append] at hlead ⊢
      rw [links_cons hlead, ih hfiller.of_cons]

theorem isName_of_mem_links (h : name ∈ links s) : IsName name := by
  fun_induction links s with
  | case1 => cases h
  | case2 c rest found after hlink ih =>
      rcases List.mem_cons.1 h with rfl | hmem
      · exact (link?_eq_some_iff.1 hlink).2
      · exact ih hmem
  | case3 c rest hnone ih => exact ih h

/-- References to directories and what follows each of them. -/
def page (before : String) : List (String × String) → String
  | [] => before
  | (name, after) :: entries => before ++ "href=\"" ++ name ++ "/\"" ++ page after entries

theorem links_page {before : String} {entries : List (String × String)}
    (hbefore : IsFiller before.toList)
    (hentries : ∀ entry ∈ entries, IsName entry.1.toList ∧ IsFiller entry.2.toList) :
    links (page before entries).toList = entries.map fun entry => entry.1.toList := by
  induction entries generalizing before with
  | nil => exact links_filler hbefore
  | cons entry entries ih =>
      obtain ⟨⟨hname, hafter⟩, hrest⟩ := List.forall_mem_cons.1 hentries
      have htext : (page before (entry :: entries)).toList = before.toList ++
          (lead ++ (entry.1.toList ++ '/' :: '"' :: (page entry.2 entries).toList)) := by
        simp [page, lead]
      rw [htext, links_filler_append hbefore, links_of_link? (link?_eq_some_iff.2 ⟨rfl, hname⟩),
        ih hafter hrest, List.map_cons]

/-- The directory itself and the one above it. -/
def IsSubdirectory (name : String) : Prop := name ≠ "." ∧ name ≠ ".."

instance : DecidablePred IsSubdirectory := fun name =>
  inferInstanceAs (Decidable (name ≠ "." ∧ name ≠ ".."))

theorem isSubdirectory_ofList {name : List Char} :
    IsSubdirectory (String.ofList name) ↔ name ≠ ['.'] ∧ name ≠ ['.', '.'] := by
  have hdot : "." = String.ofList ['.'] := rfl
  have hdots : ".." = String.ofList ['.', '.'] := rfl
  rw [IsSubdirectory, hdot, hdots, Ne, Ne, String.ofList_inj, String.ofList_inj]

theorem names_eq_unseen (text : String) : names text =
    Metadata.unseen [] (((links text.toList).map String.ofList).filter (IsSubdirectory ·)) := by
  have hnames : names text = (((links text.toList).map String.ofList).filter
      (IsSubdirectory ·)).eraseDups := by
    rw [List.filter_map, names]
    congr 2
    refine List.filter_congr fun name _ => Bool.eq_iff_iff.2 ?_
    simp [isSubdirectory_ofList]
  rw [hnames, Metadata.eraseDups_eq_appendNew, Metadata.appendNew_eq_unseen, List.nil_append]

theorem nodup_names (text : String) : (names text).Nodup :=
  Metadata.nodup_distinct _

theorem isName_of_mem_names {text name : String} (h : name ∈ names text) :
    IsName name.toList ∧ IsSubdirectory name := by
  rw [names, List.mem_eraseDups, List.mem_map] at h
  obtain ⟨found, hfound, rfl⟩ := h
  obtain ⟨hlink, hother⟩ := List.mem_filter.1 hfound
  refine ⟨?_, isSubdirectory_ofList.2 (by simpa using hother)⟩
  rw [String.toList_ofList]
  exact isName_of_mem_links hlink

/-- The directories that a page has references to, each at its first reference. -/
def listed (entries : List (String × String)) : List String :=
  Metadata.unseen [] ((entries.map Prod.fst).filter (IsSubdirectory ·))

theorem names_page {before : String} {entries : List (String × String)}
    (hbefore : IsFiller before.toList)
    (hentries : ∀ entry ∈ entries, IsName entry.1.toList ∧ IsFiller entry.2.toList) :
    names (page before entries) = listed entries := by
  rw [names_eq_unseen, links_page hbefore hentries, List.map_map, listed]
  simp [Function.comp_def]

end Repository.Index

namespace Repository.Access

theorem list_remote {settings : Http.Settings} {a : Access} {base path : String} {s : Session}
    {blob : Digest.Blob} (hplace : a.place = .remote base)
    (h : (a.fetch settings (indexPath path) s).1 = .ok (some blob)) :
    (a.list settings path s).1 = .ok (Index.names (Text.Utf8.repair blob.data)) := by
  rw [indexPath] at h
  unfold list
  rw [hplace]
  dsimp only
  rw [Run.bind_apply, h]
  rfl

end Repository.Access

namespace Resolution

open Repository Repository.Index

theorem derive_remote {settings : Http.Settings} {a : Access} {base : String} {ga : GroupArtifact}
    {s : Session} {blob : Digest.Blob} (hplace : a.place = .remote base)
    (h : (a.fetch settings (Access.indexPath (Layout.directory ga)) s).1 = .ok (some blob)) :
    (derive settings a ga s).1 = .ok {
      group := ga.group, artifact := ga.artifact,
      versions := names (Text.Utf8.repair blob.data) } := by
  have hnames := Metadata.distinct_eq_self_iff.2 (nodup_names (Text.Utf8.repair blob.data))
  rw [derive, Run.bind_apply, Access.list_remote hplace h, Run.pure_apply, Except.map,
    Metadata.ofVersions, hnames]

/-- Whatever a page is, each name that is read from it is the name of a directory below, and is read
once. If a page consists of references and text in which none begins, every one of them is found.
The versions that are derived from such a page are the directories it refers to, in its order. -/
theorem derive_lists_subdirectories :
    (∀ text, (names text).Nodup ∧
      ∀ name ∈ names text, IsName name.toList ∧ name ≠ "." ∧ name ≠ "..") ∧
    ∀ before entries, IsFiller before.toList →
      (∀ entry ∈ entries, IsName entry.1.toList ∧ IsFiller entry.2.toList) →
      names (page before entries) = listed entries ∧
      ∀ settings (a : Access) base ga s blob, a.place = .remote base →
        (a.fetch settings (Access.indexPath (Layout.directory ga)) s).1 = .ok (some blob) →
        blob.data = Text.Utf8.encode (page before entries) →
        (derive settings a ga s).1 = .ok {
          group := ga.group, artifact := ga.artifact, versions := listed entries } := by
  refine ⟨fun text => ⟨nodup_names text, fun name => isName_of_mem_names⟩,
    fun before entries hbefore hentries => ⟨names_page hbefore hentries, ?_⟩⟩
  intro settings a base ga s blob hplace hfetch hdata
  rw [derive_remote hplace hfetch, hdata, Text.Utf8.repair_encode, names_page hbefore hentries]

theorem derive_lists_subdirectories_once :
    let entries := [("..", ">../</a> <a href="), ("1.0", ">href</a>"), ("hre", "f="), ("1.0", "\"")]
    let body := Text.Utf8.encode (page "<a href='' " entries)
    let s : Session := { network := ⟨fun _ _ => .works, fun _ _ => { body }⟩ }
    (derive {} (access { id := "r", uri := "http://h/m" }) ⟨"g.h", "a"⟩ s).1 =
      .ok { group := "g.h", artifact := "a", versions := ["1.0", "hre"] } := by
  intro entries body s
  let a := access { id := "r", uri := "http://h/m" }
  let fetched := (a.fetch {} (Access.indexPath (Layout.directory ⟨"g.h", "a"⟩)) s).1
  obtain ⟨-, hpage⟩ := derive_lists_subdirectories
  have hfiller : IsFiller "<a href='' ".toList := by decide +kernel
  have hentries : ∀ entry ∈ entries, IsName entry.1.toList ∧ IsFiller entry.2.toList := by
    decide +kernel
  have hlisted : listed entries = ["1.0", "hre"] := by decide +kernel
  have hplace : a.place = .remote "http://h/m/" := by decide +kernel
  have hdata : (fetched.toOption.bind id).map Digest.Blob.data = some body := by decide +kernel
  obtain ⟨blob, hblob, hbytes⟩ := Option.map_eq_some_iff.1 hdata
  have hfetch : fetched = .ok (some blob) := by
    cases houtcome : fetched with
    | error e =>
        rw [houtcome] at hblob
        cases hblob
    | ok found =>
        rw [houtcome] at hblob
        exact congrArg _ hblob
  rw [← hlisted]
  exact (hpage _ entries hfiller hentries).2 {} a _ ⟨"g.h", "a"⟩ s blob hplace hfetch hbytes

end Resolution

end Depot
