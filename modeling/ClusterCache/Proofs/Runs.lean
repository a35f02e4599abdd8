import Mathlib.Data.List.Basic

/-!
# Runs that grow at the end

What is said of a run by a point in it, with what comes before and what comes after, is said anew
when the run goes on: the point lies in the run as it was, or it is the last one.
-/

namespace ClusterCache

variable {α : Type} {items : List α} {last item : α} {holds : List α → List α → Prop}

theorem exists_split_concat_iff :
    (∃ first rest, items ++ [last] = first ++ item :: rest ∧ holds first rest) ↔
      (∃ first rest, items = first ++ item :: rest ∧ holds first (rest ++ [last])) ∨
        (last = item ∧ holds items []) := by
  constructor
  · rintro ⟨first, rest, split, held⟩
    rcases List.eq_nil_or_concat rest with rfl | ⟨rest, final, rfl⟩
    · obtain ⟨rfl, same⟩ := List.append_inj' split rfl
      exact Or.inr ⟨List.singleton_inj.1 same, held⟩
    · rw [List.concat_eq_append] at split held
      rw [← List.cons_append, ← List.append_assoc] at split
      obtain ⟨rfl, same⟩ := List.append_inj' split rfl
      rw [← List.singleton_inj.1 same] at held
      exact Or.inl ⟨first, rest, rfl, held⟩
  · rintro (⟨first, rest, rfl, held⟩ | ⟨rfl, held⟩)
    · exact ⟨first, rest ++ [last], by simp, held⟩
    · exact ⟨items, [], rfl, held⟩

end ClusterCache
