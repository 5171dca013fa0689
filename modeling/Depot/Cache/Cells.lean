import Depot.Cache

/-!
The cells of a cache. A key has a cell from the first call for it on, and the cell stays empty
until a value has been computed. Whoever looks at a cache sees no more than the values in its cells,
so that each operation on cells is one on the cache of these values.
-/

namespace Depot.Cache

/-- Keys with their cells. -/
abbrev Cells (κ α : Type) := List (κ × Option α)

namespace Cells

variable {κ α : Type}

/-- A cell for each value of a cache. -/
def ofCache (c : Cache κ α) : Cells κ α := c.map fun p => (p.1, some p.2)

/-- How many cells are not empty. -/
def size (cells : Cells κ α) : Nat := cells.countP fun p => p.2.isSome

/-- What is in the cells, in the order in which they were filled. -/
def values (cells : Cells κ α) : Cache κ α := cells.filterMap fun p => p.2.map (p.1, ·)

@[simp] theorem values_ofCache (c : Cache κ α) : (ofCache c).values = c := by
  rw [values, ofCache, List.filterMap_map]
  exact List.filterMap_some

theorem size_values (cells : Cells κ α) : cells.values.size = cells.size := by
  rw [Cache.size, values, List.length_filterMap_eq_countP, size]
  simp only [Option.isSome_map]

theorem values_cons (p : κ × Option α) (cells : Cells κ α) :
    values (p :: cells) = (p.2.map (p.1, ·)).toList ++ cells.values := by
  rw [values, List.filterMap_cons]
  cases p.2 <;> rfl

variable [BEq κ]

/-- The value in the cell of a key, if there is a cell and it is not empty. -/
def get? (cells : Cells κ α) (key : κ) : Option α :=
  cells.findSome? fun p => if key == p.1 then p.2 else none

/-- Gives a key a cell if it has none. -/
def withCell (cells : Cells κ α) (key : κ) : Cells κ α :=
  if cells.any (key == ·.1) then cells else cells ++ [(key, none)]

/-- Puts a value into the cell of a key, unless there is one. -/
def fill (cells : Cells κ α) (key : κ) (value : α) : Cells κ α :=
  match cells.get? key with
  | some _ => cells
  | none => cells.filter (fun p => !(key == p.1)) ++ [(key, some value)]

theorem get?_cons (p : κ × Option α) (cells : Cells κ α) (key : κ) :
    get? (p :: cells) key =
      if key == p.1 then p.2.or (cells.get? key) else cells.get? key := by
  rw [get?, List.findSome?_cons]
  cases key == p.1 with
  | true => cases p.2 <;> rfl
  | false => rfl

theorem get?_values (cells : Cells κ α) (key : κ) : cells.values.get? key = cells.get? key := by
  induction cells with
  | nil => rfl
  | cons p cells ih =>
      obtain ⟨k, cell⟩ := p
      rw [values_cons, get?_cons, ← ih]
      cases cell with
      | none => exact (ite_self _).symm
      | some value =>
          rw [Cache.get?, Option.map_some, Option.toList_some, List.singleton_append,
            List.lookup_cons]
          cases key == k <;> rfl

/-- An empty cell does not show. -/
theorem values_withCell (cells : Cells κ α) (key : κ) :
    (cells.withCell key).values = cells.values := by
  unfold withCell
  split
  · rfl
  · rw [values, List.filterMap_append]
    exact List.append_nil _

/-- Without a value for a key, nothing is lost with its cell. -/
theorem values_filter {cells : Cells κ α} {key : κ} (h : cells.get? key = none) :
    values (cells.filter fun p => !(key == p.1)) = cells.values := by
  induction cells with
  | nil => rfl
  | cons p cells ih =>
      rw [get?_cons] at h
      cases hkey : key == p.1 with
      | true =>
          rw [hkey, if_pos rfl, Option.or_eq_none_iff] at h
          rw [List.filter_cons_of_neg (by simp [hkey]), values_cons, h.1, ih h.2]
          rfl
      | false =>
          rw [hkey, if_neg Bool.false_ne_true] at h
          rw [List.filter_cons_of_pos (by simp [hkey]), values_cons, values_cons, ih h]

theorem values_fill (cells : Cells κ α) (key : κ) (value : α) :
    (cells.fill key value).values = cells.values.put key value := by
  rw [fill, Cache.put, get?_values]
  cases hcell : cells.get? key with
  | some _ => rfl
  | none =>
      dsimp only
      rw [values, List.filterMap_append]
      exact congrArg (· ++ [(key, value)]) (values_filter hcell)

end Cells

end Depot.Cache
