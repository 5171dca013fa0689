import Depot.Markup.Field
import Depot.Proofs.Results
import Depot.Proofs.WrittenMarkup
import Mathlib.Data.List.Pairwise
import Mathlib.Data.List.Perm.Basic

/-!
Records whose fields are elements of their own. The order of the elements does not matter if their
names are different; the items of a list keep theirs.
-/

namespace Depot.Markup

/-- An element without attributes. -/
abbrev Child := String × Content

/-- A name, and what has to hold of the content of an element with this name. -/
abbrev Expected := String × (Content → Prop)

def Expected.Fits (expected : Expected) (child : Child) : Prop :=
  child.1 = expected.1 ∧ expected.2 child.2

theorem Expected.names_of_fits {expected : List Expected} {children : List Child}
    (h : List.Forall₂ Fits expected children) : children.map (·.1) = expected.map (·.1) := by
  induction h with
  | nil => rfl
  | cons hfits _ ih => rw [List.map_cons, List.map_cons, hfits.1, ih]

namespace Content

/-- Nothing but elements. -/
def elements (children : List Child) : Content :=
  children.foldr (fun child rest => .element (.plain child.1) [] child.2 rest) .done

def InOrder (expected : List Expected) (c : Content) : Prop :=
  ∃ children, c = .elements children ∧ List.Forall₂ Expected.Fits expected children

def InAnyOrder (expected : List Expected) (c : Content) : Prop :=
  ∃ order, expected.Perm order ∧ c.InOrder order

end Content

variable {σ α β : Type} {name : String} {Shows : α → Content → Prop}

/-- An element for each of these. -/
def each (name : String) (Shows : α → Content → Prop) (as : List α) : List Expected :=
  as.map fun a => (name, Shows a)

/-- An element for what may be missing. -/
def ifAny (name : String) (Shows : α → Content → Prop) (a? : Option α) : List Expected :=
  each name Shows a?.toList

theorem forall_mem_each {P : Expected → Prop} {as : List α} :
    (∀ e ∈ each name Shows as, P e) ↔ ∀ a ∈ as, P (name, Shows a) := List.forall_mem_map

theorem forall_mem_ifAny {P : Expected → Prop} {a? : Option α} :
    (∀ e ∈ ifAny name Shows a?, P e) ↔ ∀ a ∈ a?, P (name, Shows a) := by
  simp only [ifAny, forall_mem_each, Option.mem_toList, Option.mem_def]

/-- There is a text for some content like this. -/
def Writable (P : Content → Prop) : Prop := ∃ c s, P c ∧ Writes c s

theorem writable_inOrder {expected : List Expected}
    (h : ∀ e ∈ expected, IsWord e.1.toList ∧ Writable e.2) :
    Writable (Content.InOrder expected) := by
  induction expected with
  | nil => exact ⟨.done, [], ⟨[], rfl, .nil⟩, .done (List.forall_mem_nil _)⟩
  | cons e expected ih =>
      obtain ⟨hname, c, s, hc, hs⟩ := h e List.mem_cons_self
      obtain ⟨rest, t, ⟨children, rfl, hfits⟩, ht⟩ := ih fun e he => h e (List.mem_cons_of_mem _ he)
      exact ⟨_, _, ⟨(e.1, c) :: children, rfl, .cons ⟨rfl, hc⟩ hfits⟩,
        .element (List.forall_mem_nil _) hname hs ht⟩

theorem writable_inAnyOrder {expected : List Expected}
    (h : ∀ e ∈ expected, IsWord e.1.toList ∧ Writable e.2) :
    Writable (Content.InAnyOrder expected) := by
  obtain ⟨c, s, hc, hs⟩ := writable_inOrder h
  exact ⟨c, s, ⟨expected, .refl _, hc⟩, hs⟩

/-- Two fields that do not get into each other's way. -/
structure Field.Apart (f g : Field σ) : Prop where
  left : ∀ r r' source, f.read r source = .ok r' → g.isSet r' = g.isSet r
  right : ∀ r r' source, g.read r source = .ok r' → f.isSet r' = f.isSet r
  comm : ∀ r r' source source', (∃ r₁, f.read r source = .ok r₁ ∧ g.read r₁ source' = .ok r') ↔
    ∃ r₁, g.read r source' = .ok r₁ ∧ f.read r₁ source = .ok r'

namespace Field.Apart

theorem symm {f g : Field σ} (h : f.Apart g) : g.Apart f :=
  ⟨h.right, h.left, fun r r' source source' => (h.comm r r' source' source).symm⟩

@[simp] theorem single {read : Reader α} {get : σ → Option α} {set : σ → α → σ} {read' : Reader β}
    {get' : σ → Option β} {set' : σ → β → σ} (hget : ∀ r b, get (set' r b) = get r)
    (hget' : ∀ r a, get' (set r a) = get' r)
    (hset : ∀ r a b, set' (set r a) b = set (set' r b) a) :
    (Field.single read get set).Apart (.single read' get' set') := by
  refine ⟨fun r r' source h => ?_, fun r r' source h => ?_, fun r r' source source' => ?_⟩
  · obtain ⟨a, -, rfl⟩ := map_eq_ok.1 h
    exact congrArg Option.isSome (hget' r a)
  · obtain ⟨b, -, rfl⟩ := map_eq_ok.1 h
    exact congrArg Option.isSome (hget r b)
  · simp only [Field.single, map_eq_ok]
    constructor
    · rintro ⟨-, ⟨a, ha, rfl⟩, b, hb, rfl⟩
      exact ⟨_, ⟨b, hb, rfl⟩, a, ha, (hset r a b).symm⟩
    · rintro ⟨-, ⟨b, hb, rfl⟩, a, ha, rfl⟩
      exact ⟨_, ⟨a, ha, rfl⟩, b, hb, hset r a b⟩

end Field.Apart

namespace Fields

def IsApart (fields : Fields σ) : Prop := fields.Pairwise fun a b => a.2.Apart b.2

def addChild (fields : Fields σ) (r : σ) (child : Child) : Except Fault σ :=
  fields.add r child.1 false (.element [] child.2)

variable {fields : Fields σ} {r r' : σ}

@[simp] theorem isApart_cons {a : String × Field σ} :
    IsApart (a :: fields) ↔ (∀ b ∈ fields, a.2.Apart b.2) ∧ IsApart fields :=
  List.pairwise_cons

@[simp] theorem isApart_nil : IsApart ([] : Fields σ) := List.Pairwise.nil

theorem mem_of_lookup {key : String} {f : Field σ} (h : fields.lookup key = some f) :
    (key, f) ∈ fields := by
  obtain ⟨before, after, rfl, -⟩ := List.lookup_eq_some_iff.1 h
  simp

theorem IsApart.of_lookup (h : fields.IsApart) {a b : String} (hne : a ≠ b) {f g : Field σ}
    (hf : fields.lookup a = some f) (hg : fields.lookup b = some g) : f.Apart g := by
  have hsymm : Std.Symm fun a b : String × Field σ => a.2.Apart b.2 := ⟨fun _ _ h => h.symm⟩
  refine List.Pairwise.forall h (mem_of_lookup hf) (mem_of_lookup hg) fun heq => hne ?_
  exact congrArg Prod.fst heq

theorem addChild_of_none {child : Child} (h : fields.lookup child.1 = none) :
    fields.addChild r child = .ok r := by
  rw [addChild, add, h]

theorem addChild_eq_ok {child : Child} {f : Field σ} (h : fields.lookup child.1 = some f) :
    fields.addChild r child = .ok r' ↔
      f.isSet r = false ∧ f.read r (.element [] child.2) = .ok r' := by
  rw [addChild, add, h]
  cases hset : f.isSet r with
  | false => simp [hset]
  | true => simp [hset]

theorem addChild_swap (h : fields.IsApart) {a b : Child} (hne : a.1 ≠ b.1)
    (hok : ∃ r₁, fields.addChild r a = .ok r₁ ∧ fields.addChild r₁ b = .ok r') :
    ∃ r₁, fields.addChild r b = .ok r₁ ∧ fields.addChild r₁ a = .ok r' := by
  obtain ⟨r₁, ha, hb⟩ := hok
  cases hf : fields.lookup a.1 with
  | none =>
      rw [addChild_of_none hf] at ha
      cases ha
      exact ⟨r', hb, addChild_of_none hf⟩
  | some f =>
      cases hg : fields.lookup b.1 with
      | none =>
          rw [addChild_of_none hg] at hb
          cases hb
          exact ⟨r, addChild_of_none hg, ha⟩
      | some g =>
          rw [addChild_eq_ok hf] at ha
          rw [addChild_eq_ok hg] at hb
          have hapart := h.of_lookup hne hf hg
          obtain ⟨r₂, hread, hread'⟩ := (hapart.comm r r' _ _).1 ⟨r₁, ha.2, hb.2⟩
          refine ⟨r₂, (addChild_eq_ok hg).2 ⟨?_, hread⟩, (addChild_eq_ok hf).2 ⟨?_, hread'⟩⟩
          · rw [← hapart.left _ _ _ ha.2]
            exact hb.1
          · rw [hapart.right _ _ _ hread]
            exact ha.1

/-- Elements with different names can stand in any order. -/
theorem foldlM_addChild_perm (h : fields.IsApart) {children children' : List Child}
    (hperm : children.Perm children') (hnames : (children.map (·.1)).Nodup)
    (hok : children.foldlM fields.addChild r = .ok r') :
    children'.foldlM fields.addChild r = .ok r' :=
  foldlM_perm (R := fun a b => a.1 ≠ b.1) Ne.symm (addChild_swap h) hperm
    (List.pairwise_map.1 hnames) hok

theorem addContent_cons (r : σ) (previous : Option ElementName) (child : Child)
    (children : List Child) :
    fields.addContent r previous (.elements (child :: children)) =
      fields.add r child.1 (previous == some (.plain child.1)) (.element [] child.2) >>= fun r =>
        fields.addContent r (some (.plain child.1)) (.elements children) := by
  rw [Content.elements, List.foldr_cons, addContent]
  dsimp only [ElementName.plain]
  cases fields.add r child.1 (previous == some ⟨⟨none, child.1⟩, none⟩) (.element [] child.2) <;>
    rfl

/-- Only lists look at what precedes. -/
theorem addContent_elements (h : ∀ a ∈ fields, a.2.repeats = false) (children : List Child)
    (r : σ) (previous : Option ElementName) :
    fields.addContent r previous (.elements children) = children.foldlM fields.addChild r := by
  have hadd (r : σ) (key : String) (again : Bool) (source : Source) :
      fields.add r key again source = fields.add r key false source := by
    unfold add
    split
    · rfl
    · rename_i f hf
      rw [h _ (mem_of_lookup hf), Bool.false_and, Bool.false_and]
  induction children generalizing r previous with
  | nil => rfl
  | cons child children ih =>
      rw [List.foldlM_cons, addContent_cons, hadd]
      exact bind_congr fun r => ih r _

/-- What is expected has some of these names, and is taken up if it stands in their order. -/
structure Reads (fields : Fields σ) (names : List String) (expected : List Expected) (r r' : σ) :
    Prop where
  names : (expected.map (·.1)).Sublist names
  ok : ∀ children, List.Forall₂ Expected.Fits expected children →
    children.foldlM fields.addChild r = .ok r'

theorem Reads.nil (r : σ) : fields.Reads [] [] r r := by
  refine ⟨List.Sublist.slnil, fun children h => ?_⟩
  cases h
  rfl

/-- The record before and after the field is read is `put` of nothing and of what it shows. -/
theorem Reads.ifAny {names : List String} {read : Reader α} {get : σ → Option α}
    {set : σ → α → σ} {a? : Option α} {rest : List Expected}
    (put : Option α → σ) (hnone : put none = r) (hsome : ∀ a, set r a = put (some a))
    (hlookup : fields.lookup name = some (.single read get set))
    (hread : ∀ a inner, Shows a inner → read (.element [] inner) = .ok a) (hget : get r = none)
    (hrest : fields.Reads names rest (put a?) r') :
    fields.Reads (name :: names) (ifAny name Shows a? ++ rest) r r' := by
  cases a? with
  | none => exact ⟨hrest.names.cons name, hnone ▸ hrest.ok⟩
  | some a =>
      refine ⟨hrest.names.cons_cons name, fun children h => ?_⟩
      obtain ⟨child, children, ⟨hchild, hshows⟩, hchildren, rfl⟩ := List.forall₂_cons_left_iff.1 h
      have hfield : fields.lookup child.1 = some (.single read get set) := by
        rw [hchild]
        exact hlookup
      rw [List.foldlM_cons, bind_eq_ok]
      refine ⟨put (some a), (addChild_eq_ok hfield).2 ⟨?_, ?_⟩, hrest.ok children hchildren⟩
      · exact congrArg Option.isSome hget
      · exact map_eq_ok.2 ⟨a, hread a _ hshows, hsome a⟩

/-- A record is read back from its fields in any order. -/
theorem record_of_reads (names : List String) (hnames : names.Nodup) {expected : List Expected}
    {empty : σ} {close : σ → Except Fault α} {kind : String} {inner : Content}
    (hinner : inner.InAnyOrder expected) (h : fields.Reads names expected empty r)
    (hapart : fields.IsApart) (hsingle : ∀ a ∈ fields, a.2.repeats = false) :
    Reader.record kind fields empty close (.element [] inner) = close r := by
  obtain ⟨order, hperm, children, rfl, hfits⟩ := hinner
  obtain ⟨sorted, hsorted, hchildren⟩ := List.perm_comp_forall₂ hperm hfits
  have hnodup : (sorted.map (·.1)).Nodup := by
    rw [Expected.names_of_fits hsorted]
    exact hnames.sublist h.names
  have hread := foldlM_addChild_perm hapart hchildren hnodup (h.ok sorted hsorted)
  rw [Reader.record, addAttributes, List.foldlM_nil]
  change (fields.addContent empty none (.elements children) >>= close) = _
  rw [addContent_elements hsingle, hread]
  rfl

end Fields

/-- The field of an element that holds nothing but a list. -/
def itemFields (name : String) (read : Reader α) : Fields (Option (List α)) :=
  [(name, .items read id fun _ as => some as)]

theorem add_itemFields {read : Reader α} {inner : Content} {a : α}
    (hread : read (.element [] inner) = .ok a) {as? : Option (List α)} {again : Bool}
    (hagain : as?.isSome → again) :
    (itemFields name read).add as? name again (.element [] inner) =
      .ok (some (as?.getD [] ++ [a])) := by
  have hlookup : (itemFields name read).lookup name =
      some (.items read id fun _ as => some as) := by
    simp [itemFields]
  have hset : (as?.isSome && !(true && again)) = false := by
    cases as? with
    | none => rfl
    | some as =>
        rw [hagain rfl]
        rfl
  rw [Fields.add, hlookup]
  simp only [Field.items, id, hset, hread]
  rfl

/-- Items are gathered in the order in which they stand. -/
theorem addContent_itemFields {read : Reader α}
    (hread : ∀ a inner, Shows a inner → read (.element [] inner) = .ok a) {as : List α}
    {children : List Child} (h : List.Forall₂ Expected.Fits (each name Shows as) children)
    {as? : Option (List α)} {previous : Option ElementName}
    (hagain : as?.isSome → previous = some (.plain name)) :
    ∃ bs?, (itemFields name read).addContent as? previous (.elements children) = .ok bs? ∧
      bs?.getD [] = as?.getD [] ++ as := by
  induction as generalizing children as? previous with
  | nil =>
      cases h
      exact ⟨as?, rfl, (List.append_nil _).symm⟩
  | cons a as ih =>
      obtain ⟨⟨key, inner⟩, children, ⟨hkey, hshows⟩, hchildren, rfl⟩ :=
        List.forall₂_cons_left_iff.1 h
      obtain rfl : key = name := hkey
      have hadd : (itemFields key read).add as? key (previous == some (.plain key))
          (.element [] inner) = .ok (some (as?.getD [] ++ [a])) :=
        add_itemFields (hread a inner hshows) fun hsome => beq_iff_eq.2 (hagain hsome)
      obtain ⟨bs?, hbs, hlist⟩ :=
        @ih children hchildren (some (as?.getD [] ++ [a])) (some (.plain key)) fun _ => rfl
      refine ⟨bs?, ?_, ?_⟩
      · rw [Fields.addContent_cons]
        exact (congrArg (· >>= _) hadd).trans hbs
      · rw [hlist, Option.getD_some, List.append_assoc]
        rfl

end Depot.Markup
