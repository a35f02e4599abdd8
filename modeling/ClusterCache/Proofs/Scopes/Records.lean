import ClusterCache.Proofs.Table.Keys
import ClusterCache.Scopes

/-!
# What the records hold after an operation

An entry of a record was made by the last operation that wrote it. Recording adds one entry and
forgetting a kind removes its own, in both records.
-/

namespace ClusterCache

namespace Loading

/-- The record has the entry under the text. -/
def Holds (loading : Loading) (text : String) (entry : ScopeEntry) : Prop :=
  (text, entry) ∈ loading.entries.entries

theorem holds_of_record {loading : Loading} {scope : Key} {loaded : Bool} {text : String}
    {entry : ScopeEntry} (holds : (loading.record scope loaded).Holds text entry) :
    (text = scope.text ∧ entry = ⟨scope.apiVersion, scope.kind, loaded⟩) ∨
      (loading.Holds text entry ∧ text ≠ scope.text) := by
  rcases Table.mem_entries_insert holds with isNew | before
  · exact Or.inl (Prod.mk.inj isNew)
  · exact Or.inr before

theorem holds_of_forgetKind {loading : Loading} {apiVersion kind text : String}
    {entry : ScopeEntry} (holds : (loading.forgetKind apiVersion kind).Holds text entry) :
    loading.Holds text entry ∧ ¬ (entry.apiVersion = apiVersion ∧ entry.kind = kind) := by
  obtain ⟨before, kept⟩ := List.mem_filter.1 holds
  refine ⟨before, ?_⟩
  rintro ⟨sameVersion, sameKind⟩
  simp [sameVersion, sameKind] at kept

/-- A scope that is not loaded has an entry that says so. -/
theorem isLoaded_eq_false_iff {loading : Loading} {scope : Key} :
    loading.isLoaded scope = false ↔
      ∃ entry, loading.entries.get? scope.text = some entry ∧ entry.loaded = false := by
  unfold isLoaded
  cases loading.entries.get? scope.text with
  | none => simp
  | some entry => simp

theorem isRecorded_iff {loading : Loading} {scope : Key} :
    loading.isRecorded scope = true ↔
      ∃ entry, loading.entries.get? scope.text = some entry :=
  Option.isSome_iff_exists

theorem isLoaded_record_self (loading : Loading) (scope : Key) (loaded : Bool) :
    (loading.record scope loaded).isLoaded scope = loaded := by
  simp [isLoaded, record]

end Loading

namespace Usage

/-- The record has the kind as used in the namespace. -/
def Holds (usage : Usage) (ns : String) (kind : GroupVersionKind) : Prop :=
  ∃ kinds, (ns, kinds) ∈ usage.scopes.entries ∧ (kind, true) ∈ kinds.entries

theorem holds_of_isUsed {usage : Usage} {ns : String} {kind : GroupVersionKind}
    (used : usage.isUsed ns kind = true) : usage.Holds ns kind := by
  unfold isUsed at used
  cases foundKinds : usage.scopes.get? ns with
  | none => simp [foundKinds] at used
  | some kinds =>
      have found : kinds.get? kind = some true := by
        simpa [foundKinds, Option.getD_eq_iff] using used
      exact ⟨kinds, Table.mem_entries_of_get? foundKinds, Table.mem_entries_of_get? found⟩

theorem holds_of_record {usage : Usage} {ns other : String} {kind used : GroupVersionKind}
    (holds : (usage.record ns kind true).Holds other used) :
    used = kind ∨ usage.Holds other used := by
  obtain ⟨kinds, inScopes, inKinds⟩ := holds
  rcases Table.mem_entries_insert inScopes with isNew | ⟨before, _⟩
  · obtain ⟨rfl, rfl⟩ := Prod.mk.inj isNew
    rcases Table.mem_entries_insert inKinds with isKind | ⟨inOld, _⟩
    · exact Or.inl (Prod.mk.inj isKind).1
    · cases found : usage.scopes.get? other with
      | none =>
          rw [found] at inOld
          exact absurd inOld List.not_mem_nil
      | some kinds =>
          rw [found] at inOld
          exact Or.inr ⟨kinds, Table.mem_entries_of_get? found, inOld⟩
  · exact Or.inr ⟨kinds, before, inKinds⟩

theorem holds_of_forgetKind {usage : Usage} {kind used : GroupVersionKind} {ns : String}
    (holds : (usage.forgetKind kind).Holds ns used) : usage.Holds ns used ∧ used ≠ kind := by
  obtain ⟨kinds, inScopes, inKinds⟩ := holds
  obtain ⟨inMapped, _⟩ := List.mem_filter.1 inScopes
  obtain ⟨entry, before, same⟩ := List.mem_map.1 inMapped
  obtain ⟨rfl, rfl⟩ := Prod.mk.inj same
  obtain ⟨inOld, different⟩ := Table.mem_entries_erase.1 inKinds
  exact ⟨⟨entry.2, before, inOld⟩, different⟩

end Usage

end ClusterCache
