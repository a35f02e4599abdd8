import ClusterCache.Handlers
import Mathlib.Data.List.Nodup

/-!
# Registrations over time

Registrations are numbered in order and a number is never given out again. So a registration that
was removed does not come back, and one that is there now was there ever since it was made.
-/

namespace ClusterCache.Handlers

variable {η : Type}

/-- The registrations bear different numbers, all of them given out by their owner. -/
structure Numbered (handlers : Handlers η) : Prop where
  owned : ∀ entry ∈ handlers.subscriptions, entry.id.owner = handlers.owner
  below : ∀ entry ∈ handlers.subscriptions, entry.id.serial < handlers.issued
  distinct : (handlers.subscriptions.map Subscription.id).Nodup

theorem numbered_empty (owner : Nat) : (empty owner : Handlers η).Numbered where
  owned _ member := absurd member List.not_mem_nil
  below _ member := absurd member List.not_mem_nil
  distinct := List.nodup_nil

/-- No number is given out again, and what was removed stays removed. -/
structure Continues (before after : Handlers η) : Prop where
  owner : after.owner = before.owner
  issued : before.issued ≤ after.issued
  kept : ∀ entry ∈ after.subscriptions,
    entry.id.serial < before.issued → entry ∈ before.subscriptions
  numbered : before.Numbered → after.Numbered

theorem Continues.refl (handlers : Handlers η) : handlers.Continues handlers where
  owner := rfl
  issued := Nat.le_refl _
  kept _ member _ := member
  numbered := id

theorem Continues.trans {first second third : Handlers η} (left : first.Continues second)
    (right : second.Continues third) : first.Continues third where
  owner := right.owner.trans left.owner
  issued := Nat.le_trans left.issued right.issued
  kept entry member old :=
    left.kept entry (right.kept entry member (Nat.lt_of_lt_of_le old left.issued)) old
  numbered := right.numbered ∘ left.numbered

theorem continues_subscribe (handlers : Handlers η) (key : Key) (handler : η) :
    handlers.Continues (handlers.subscribe key handler).1 where
  owner := rfl
  issued := Nat.le_succ _
  kept entry member old := by
    rcases List.mem_append.1 member with inBefore | isNew
    · exact inBefore
    · rw [List.mem_singleton.1 isNew] at old
      exact absurd old (Nat.lt_irrefl _)
  numbered numbered := by
    have unused : ⟨handlers.owner, handlers.issued⟩ ∉
        handlers.subscriptions.map Subscription.id := by
      intro used
      obtain ⟨entry, member, same⟩ := List.mem_map.1 used
      have below := numbered.below entry member
      rw [same] at below
      exact absurd below (Nat.lt_irrefl _)
    constructor
    · intro entry member
      rcases List.mem_append.1 member with inBefore | isNew
      · exact numbered.owned entry inBefore
      · rw [List.mem_singleton.1 isNew]
        rfl
    · intro entry member
      rcases List.mem_append.1 member with inBefore | isNew
      · exact Nat.lt_succ_of_lt (numbered.below entry inBefore)
      · rw [List.mem_singleton.1 isNew]
        exact Nat.lt_succ_self _
    · simp only [subscribe, List.map_append, List.map_cons, List.map_nil]
      exact numbered.distinct.append (List.nodup_singleton _)
        (List.disjoint_singleton.2 unused)

/-- Removing registrations only. -/
theorem continues_of_sublist {handlers : Handlers η} {fewer : List (Subscription η)}
    (sublist : fewer.Sublist handlers.subscriptions) :
    handlers.Continues { handlers with subscriptions := fewer } where
  owner := rfl
  issued := Nat.le_refl _
  kept _ member _ := sublist.subset member
  numbered numbered :=
    { owned := fun entry member => numbered.owned entry (sublist.subset member)
      below := fun entry member => numbered.below entry (sublist.subset member)
      distinct := numbered.distinct.sublist (sublist.map _) }

theorem continues_unsubscribe (handlers : Handlers η) (id : WatchId) :
    handlers.Continues (handlers.unsubscribe id).1 :=
  continues_of_sublist List.filter_sublist

end ClusterCache.Handlers
