import ClusterCache.Informers
import ClusterCache.Proofs.Table.Keys
import Mathlib.Data.String.Basic

/-!
# The types with a current informer

Types are ordered by group, version and resource; the order is total. The types that have a current
informer are listed in this order, each once.
-/

namespace ClusterCache

namespace ResourceType

theorem le_iff {left right : ResourceType} :
    left.le right = true ↔
      left.group < right.group ∨ left.group = right.group ∧
        (left.version < right.version ∨ left.version = right.version ∧
          left.resource ≤ right.resource) := by
  unfold le
  by_cases sameGroup : left.group = right.group
  · by_cases sameVersion : left.version = right.version
    · simp [sameGroup, sameVersion]
    · simp [sameGroup, sameVersion]
  · simp [sameGroup]

theorem total_le (left right : ResourceType) : (left.le right || right.le left) = true := by
  rw [Bool.or_eq_true, le_iff, le_iff]
  rcases lt_trichotomy left.group right.group with below | same | above
  · exact Or.inl (Or.inl below)
  · rcases lt_trichotomy left.version right.version with below | sameVersion | above
    · exact Or.inl (Or.inr ⟨same, Or.inl below⟩)
    · rcases le_total left.resource right.resource with atMost | atLeast
      · exact Or.inl (Or.inr ⟨same, Or.inr ⟨sameVersion, atMost⟩⟩)
      · exact Or.inr (Or.inr ⟨same.symm, Or.inr ⟨sameVersion.symm, atLeast⟩⟩)
    · exact Or.inr (Or.inr ⟨same.symm, Or.inl above⟩)
  · exact Or.inr (Or.inl above)

theorem trans_le (first second third : ResourceType) (left : first.le second = true)
    (right : second.le third = true) : first.le third = true := by
  rw [le_iff] at left right ⊢
  grind

theorem antisymm_le {left right : ResourceType} (atMost : left.le right = true)
    (atLeast : right.le left = true) : left = right := by
  rw [le_iff] at atMost atLeast
  cases left
  cases right
  grind

end ResourceType

namespace Informers

variable {η : Type}

/-- The types with a current informer, as they are stored. -/
def unsortedTypes (informers : Informers η) : List ResourceType :=
  (informers.current.entries.filter fun entry => entry.2.isSome).map Prod.fst

theorem types_perm (informers : Informers η) :
    informers.types.Perm informers.unsortedTypes := List.mergeSort_perm _ _

theorem nodup_types {informers : Informers η} (distinct : informers.current.Distinct) :
    informers.types.Nodup := by
  have unsorted : informers.unsortedTypes.Nodup :=
    distinct.sublist (List.filter_sublist.map Prod.fst)
  exact (types_perm informers).nodup_iff.2 unsorted

/-- Each type stands strictly before the later ones. -/
theorem strict_types {informers : Informers η} (distinct : informers.current.Distinct) :
    informers.types.Pairwise fun left right => left.le right = true ∧ right.le left = false := by
  have sorted : informers.types.Pairwise fun left right => left.le right = true :=
    List.pairwise_mergeSort ResourceType.trans_le ResourceType.total_le _
  refine sorted.imp₂ (fun left right atMost different => ⟨atMost, ?_⟩) (nodup_types distinct)
  exact Bool.eq_false_iff.2 fun atLeast => different (ResourceType.antisymm_le atMost atLeast)

theorem mem_types_iff {informers : Informers η} (distinct : informers.current.Distinct)
    {type : ResourceType} :
    type ∈ informers.types ↔ ∃ id, informers.find? type = some id := by
  rw [(types_perm informers).mem_iff, unsortedTypes]
  constructor
  · intro member
    obtain ⟨⟨other, entry⟩, stored, rfl⟩ := List.mem_map.1 member
    obtain ⟨inEntries, isCurrent⟩ := List.mem_filter.1 stored
    obtain ⟨id, rfl⟩ := Option.isSome_iff_exists.1 isCurrent
    exact ⟨id, Option.join_eq_some_iff.2 (distinct.get?_eq_some_iff.2 inEntries)⟩
  · rintro ⟨id, found⟩
    have stored := Table.mem_entries_of_get? (Option.join_eq_some_iff.1 found)
    exact List.mem_map.2 ⟨_, List.mem_filter.2 ⟨stored, rfl⟩, rfl⟩

theorem size_eq (informers : Informers η) : informers.size = informers.types.length := by
  rw [(types_perm informers).length_eq, unsortedTypes, List.length_map, size, Table.values,
    List.filter_map, List.length_map]
  rfl

end Informers

end ClusterCache
