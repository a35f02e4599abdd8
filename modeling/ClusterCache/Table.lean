/-!
# Finite tables

A table holds at most one value under each key and remembers in which order its keys were last
written. Every operation is determined by what it does to the lookup function `get?`; the lemmas
below say so, one per operation.
-/

namespace ClusterCache

/-- A finite map, written as the list of its entries in the order they were last written. -/
structure Table (κ υ : Type) where
  entries : List (κ × υ)
deriving Repr, DecidableEq

namespace Table

variable {κ υ : Type}

def empty : Table κ υ := ⟨[]⟩

instance : Inhabited (Table κ υ) := ⟨empty⟩

def keys (table : Table κ υ) : List κ := table.entries.map Prod.fst

def values (table : Table κ υ) : List υ := table.entries.map Prod.snd

def size (table : Table κ υ) : Nat := table.entries.length

def isEmpty (table : Table κ υ) : Bool := table.entries.isEmpty

def filter (keep : κ → υ → Bool) (table : Table κ υ) : Table κ υ :=
  ⟨table.entries.filter fun entry => keep entry.1 entry.2⟩

def mapValues {ω : Type} (change : κ → υ → ω) (table : Table κ υ) : Table κ ω :=
  ⟨table.entries.map fun entry => (entry.1, change entry.1 entry.2)⟩

variable [DecidableEq κ]

def get? (table : Table κ υ) (key : κ) : Option υ :=
  (table.entries.find? fun entry => entry.1 = key).map Prod.snd

def contains (table : Table κ υ) (key : κ) : Bool := (table.get? key).isSome

def erase (table : Table κ υ) (key : κ) : Table κ υ :=
  ⟨table.entries.filter fun entry => entry.1 ≠ key⟩

def insert (table : Table κ υ) (key : κ) (value : υ) : Table κ υ :=
  ⟨(table.erase key).entries ++ [(key, value)]⟩

/-- The table of the given entries; of two with one key the later stays. -/
def ofList (entries : List (κ × υ)) : Table κ υ :=
  entries.foldl (fun table entry => table.insert entry.1 entry.2) empty

@[simp] theorem get?_empty (key : κ) : (empty : Table κ υ).get? key = none := rfl

@[simp] theorem get?_erase_self (table : Table κ υ) (key : κ) :
    (table.erase key).get? key = none := by
  simp [get?, erase, List.find?_filter]

theorem get?_erase_of_ne (table : Table κ υ) {key other : κ} (different : other ≠ key) :
    (table.erase key).get? other = table.get? other := by
  have agree :
      (fun entry : κ × υ =>
        decide (decide (entry.1 ≠ key) = true ∧ decide (entry.1 = other) = true))
        = fun entry => decide (entry.1 = other) := by
    funext entry
    by_cases same : entry.1 = other <;> simp [same, different]
  simp only [get?, erase, List.find?_filter]
  rw [agree]

@[simp] theorem get?_insert_self (table : Table κ υ) (key : κ) (value : υ) :
    (table.insert key value).get? key = some value := by
  have missing := get?_erase_self table key
  simp only [get?, Option.map_eq_none_iff] at missing
  simp [get?, insert, List.find?_append, missing]

theorem get?_insert_of_ne (table : Table κ υ) {key other : κ} (different : other ≠ key)
    (value : υ) : (table.insert key value).get? other = table.get? other := by
  have last : ([(key, value)] : List (κ × υ)).find? (fun entry => entry.1 = other) = none := by
    simp [Ne.symm different]
  rw [← get?_erase_of_ne table different]
  simp only [get?, insert, List.find?_append, last, Option.or_none]

theorem get?_insert (table : Table κ υ) (key other : κ) (value : υ) :
    (table.insert key value).get? other = if other = key then some value else table.get? other := by
  by_cases same : other = key
  · subst same
    simp
  · simp [same, get?_insert_of_ne table same]

theorem get?_erase (table : Table κ υ) (key other : κ) :
    (table.erase key).get? other = if other = key then none else table.get? other := by
  by_cases same : other = key
  · subst same
    simp
  · simp [same, get?_erase_of_ne table same]

end Table

end ClusterCache
