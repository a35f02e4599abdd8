import ClusterCache.Table
import Mathlib.Data.List.Nodup

/-!
# Keys of tables

A table that is built by its operations lists no key twice. In such a table a key is looked up by
looking for its entry, so facts about all entries and facts about all lookups are the same facts.
-/

namespace ClusterCache.Table

variable {κ υ : Type}

/-- No key is listed twice. -/
def Distinct (table : Table κ υ) : Prop := table.keys.Nodup

theorem distinct_empty : (empty : Table κ υ).Distinct := List.nodup_nil

theorem Distinct.filter {table : Table κ υ} (distinct : table.Distinct) (keep : κ → υ → Bool) :
    (table.filter keep).Distinct :=
  distinct.sublist (List.filter_sublist.map Prod.fst)

theorem keys_mapValues {ω : Type} (change : κ → υ → ω) (table : Table κ υ) :
    (table.mapValues change).keys = table.keys := by
  simp [mapValues, keys, Function.comp_def]

theorem Distinct.mapValues {ω : Type} {table : Table κ υ} (distinct : table.Distinct)
    (change : κ → υ → ω) : (table.mapValues change).Distinct := by
  rwa [Distinct, keys_mapValues]

variable [DecidableEq κ]

theorem get?_mapValues {ω : Type} (change : κ → υ → ω) (table : Table κ υ) (key : κ) :
    (table.mapValues change).get? key = (table.get? key).map (change key) := by
  obtain ⟨entries⟩ := table
  simp only [get?, Table.mapValues, List.find?_map, Function.comp_def, Option.map_map]
  cases found : entries.find? fun entry => entry.1 = key with
  | none => rfl
  | some entry =>
      have same : entry.1 = key := by simpa using List.find?_some found
      simp [same]

theorem Distinct.erase {table : Table κ υ} (distinct : table.Distinct) (key : κ) :
    (table.erase key).Distinct :=
  distinct.sublist (List.filter_sublist.map Prod.fst)

theorem not_mem_keys_erase (table : Table κ υ) (key : κ) : key ∉ (table.erase key).keys := by
  intro member
  obtain ⟨entry, inEntries, same⟩ := List.mem_map.1 member
  simp [Table.erase, same] at inEntries

theorem Distinct.insert {table : Table κ υ} (distinct : table.Distinct) (key : κ) (value : υ) :
    (table.insert key value).Distinct := by
  have apart : (table.erase key).keys.Disjoint [key] := by
    intro other inErased inSingle
    rw [List.mem_singleton.1 inSingle] at inErased
    exact not_mem_keys_erase table key inErased
  have joined := (distinct.erase key).append (List.nodup_singleton key) apart
  simpa [Distinct, keys, Table.insert] using joined

theorem mem_entries_of_get? {table : Table κ υ} {key : κ} {value : υ}
    (found : table.get? key = some value) : (key, value) ∈ table.entries := by
  obtain ⟨entry, foundEntry, same⟩ := Option.map_eq_some_iff.1 found
  have keyEq : entry.1 = key := by simpa using List.find?_some foundEntry
  have member := List.mem_of_find?_eq_some foundEntry
  have entryEq : entry = (key, value) := Prod.ext keyEq same
  rwa [entryEq] at member

theorem get?_eq_none_iff {table : Table κ υ} {key : κ} :
    table.get? key = none ↔ ∀ value, (key, value) ∉ table.entries := by
  constructor
  · intro missing value member
    have absent := List.find?_eq_none.1 (Option.map_eq_none_iff.1 missing) (key, value) member
    simp at absent
  · intro absent
    cases found : table.get? key with
    | none => rfl
    | some value => exact absurd (mem_entries_of_get? found) (absent value)

theorem eq_empty_of_get? {table : Table κ υ} (nothing : ∀ key, table.get? key = none) :
    table = empty := by
  obtain ⟨entries⟩ := table
  cases entries with
  | nil => rfl
  | cons entry rest =>
      exact absurd List.mem_cons_self (get?_eq_none_iff.1 (nothing entry.1) entry.2)

/-- In a table without repeated keys the entry of a key is what is stored under it. -/
theorem Distinct.get?_eq_some_iff {table : Table κ υ} (distinct : table.Distinct) {key : κ}
    {value : υ} : table.get? key = some value ↔ (key, value) ∈ table.entries := by
  refine ⟨mem_entries_of_get?, fun member => ?_⟩
  cases found : table.get? key with
  | none => exact absurd member (get?_eq_none_iff.1 found value)
  | some other =>
      have otherMember := mem_entries_of_get? found
      have sameEntry := List.inj_on_of_nodup_map distinct otherMember member rfl
      exact congrArg (fun entry => some entry.2) sameEntry

/-- Of a table without repeated keys, the entry of a key is kept or there is none any more. -/
theorem Distinct.get?_filter {table : Table κ υ} (distinct : table.Distinct)
    (keep : κ → υ → Bool) (key : κ) :
    (table.filter keep).get? key = (table.get? key).filter (keep key) := by
  apply Option.ext
  intro value
  rw [(distinct.filter keep).get?_eq_some_iff, Option.filter_eq_some_iff,
    distinct.get?_eq_some_iff]
  simp [Table.filter]

theorem mem_entries_insert {table : Table κ υ} {key : κ} {value : υ} {entry : κ × υ}
    (member : entry ∈ (table.insert key value).entries) :
    entry = (key, value) ∨ (entry ∈ table.entries ∧ entry.1 ≠ key) := by
  simp only [Table.insert, Table.erase, List.mem_append, List.mem_filter,
    List.mem_singleton] at member
  rcases member with ⟨inTable, different⟩ | last
  · exact Or.inr ⟨inTable, by simpa using different⟩
  · exact Or.inl last

theorem mem_values_of_get? {table : Table κ υ} {key : κ} {value : υ}
    (found : table.get? key = some value) : value ∈ table.values :=
  List.mem_map_of_mem (mem_entries_of_get? found)

theorem mem_entries_erase {table : Table κ υ} {key : κ} {entry : κ × υ} :
    entry ∈ (table.erase key).entries ↔ entry ∈ table.entries ∧ entry.1 ≠ key := by
  simp [Table.erase]

theorem mem_values_erase {table : Table κ υ} {key : κ} {value : υ}
    (member : value ∈ (table.erase key).values) : value ∈ table.values := by
  obtain ⟨entry, inErased, rfl⟩ := List.mem_map.1 member
  exact List.mem_map_of_mem (mem_entries_erase.1 inErased).1

theorem mem_values_insert {table : Table κ υ} {key : κ} {value other : υ}
    (member : other ∈ (table.insert key value).values) :
    other = value ∨ other ∈ table.values := by
  obtain ⟨entry, inInserted, rfl⟩ := List.mem_map.1 member
  rcases mem_entries_insert inInserted with rfl | ⟨before, _⟩
  · exact Or.inl rfl
  · exact Or.inr (List.mem_map_of_mem before)

end ClusterCache.Table
