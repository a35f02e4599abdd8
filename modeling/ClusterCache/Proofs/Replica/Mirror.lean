import ClusterCache.Proofs.Replica.Reference

/-!
# Replicas mirror their stream

The three parts of a replica are functions of the items that it has taken in: the objects are those
that the items describe, the list that is arriving holds the objects listed since the last border,
and the replica is synced once a list was completed. Each item preserves this.
-/

namespace ClusterCache.Replica

open Contents

/-- The replica is what the items say it is. -/
structure Mirrors (replica : Replica) (items : List StreamItem) : Prop where
  distinct : replica.objects.Distinct
  contents : ∀ id, replica.objects.get? id = described items id
  incoming_distinct : (replica.incoming.getD Table.empty).Distinct
  incoming : ∀ id, (replica.incoming.getD Table.empty).get? id = arriving items id
  synced : replica.synced = true ↔ ∃ item ∈ items, item.endsList = true

theorem mirrors_empty : Replica.empty.Mirrors [] where
  distinct := Table.distinct_empty
  contents _ := rfl
  incoming_distinct := Table.distinct_empty
  incoming _ := rfl
  synced := by simp [Replica.empty]

theorem get?_insert_object {objects : Objects} {contents : Contents}
    (same : ∀ id, objects.get? id = contents id) (object : Object) (id : ObjectId) :
    (objects.insert object.id object).get? id = contents.put object id := by
  rw [Table.get?_insert, same, Contents.put, Function.update_apply]

theorem get?_erase_object {objects : Objects} {contents : Contents}
    (same : ∀ id, objects.get? id = contents id) (object : Object) (id : ObjectId) :
    (objects.erase object.id).get? id = contents.remove object id := by
  rw [Table.get?_erase, same, Contents.remove, Function.update_apply]

/-- An item that does not complete a list leaves the replica as synced as it was. -/
theorem exists_endsList_concat {items : List StreamItem} {item : StreamItem}
    (other : item.endsList = false) :
    (∃ taken ∈ items ++ [item], taken.endsList = true) ↔
      ∃ taken ∈ items, taken.endsList = true := by
  simp [or_and_right, exists_or, other]

/-- What a replica mirrors, it mirrors with one item more. -/
theorem Mirrors.takeItem {replica : Replica} {items : List StreamItem}
    (mirrors : replica.Mirrors items) (item : StreamItem) :
    (replica.takeItem item).1.Mirrors (items ++ [item]) := by
  cases item with
  | failure =>
      exact
        { distinct := mirrors.distinct
          contents := fun id => by
            rw [described_concat]
            exact mirrors.contents id
          incoming_distinct := mirrors.incoming_distinct
          incoming := fun id => by
            rw [arriving_concat]
            exact mirrors.incoming id
          synced := mirrors.synced.trans (exists_endsList_concat rfl).symm }
  | event event =>
      cases event with
      | init =>
          exact
            { distinct := mirrors.distinct
              contents := fun id => by
                rw [described_concat]
                exact mirrors.contents id
              incoming_distinct := Table.distinct_empty
              incoming := fun id => by
                rw [arriving_concat]
                rfl
              synced := mirrors.synced.trans (exists_endsList_concat rfl).symm }
      | initApply object =>
          exact
            { distinct := mirrors.distinct
              contents := fun id => by
                rw [described_concat]
                exact mirrors.contents id
              incoming_distinct := mirrors.incoming_distinct.insert object.id object
              incoming := fun id => by
                rw [arriving_concat]
                exact get?_insert_object mirrors.incoming object id
              synced := mirrors.synced.trans (exists_endsList_concat rfl).symm }
      | initDone =>
          exact
            { distinct := mirrors.incoming_distinct
              contents := fun id => by
                rw [described_concat]
                exact mirrors.incoming id
              incoming_distinct := Table.distinct_empty
              incoming := fun id => by
                rw [arriving_concat]
                rfl
              synced := ⟨fun _ => ⟨_, List.mem_append_right _ List.mem_cons_self, rfl⟩,
                fun _ => rfl⟩ }
      | apply object =>
          exact
            { distinct := mirrors.distinct.insert object.id object
              contents := fun id => by
                rw [described_concat]
                exact get?_insert_object mirrors.contents object id
              incoming_distinct := mirrors.incoming_distinct
              incoming := fun id => by
                rw [arriving_concat]
                exact mirrors.incoming id
              synced := mirrors.synced.trans (exists_endsList_concat rfl).symm }
      | delete object =>
          exact
            { distinct := mirrors.distinct.erase object.id
              contents := fun id => by
                rw [described_concat]
                exact get?_erase_object mirrors.contents object id
              incoming_distinct := mirrors.incoming_distinct
              incoming := fun id => by
                rw [arriving_concat]
                exact mirrors.incoming id
              synced := mirrors.synced.trans (exists_endsList_concat rfl).symm }

/-- What a replica mirrors, it mirrors with any sequence of items more. -/
theorem Mirrors.takeAll {replica : Replica} {items : List StreamItem}
    (mirrors : replica.Mirrors items) (more : List StreamItem) :
    (replica.takeAll more).Mirrors (items ++ more) := by
  induction more generalizing replica items with
  | nil => simpa using mirrors
  | cons item rest inductionHypothesis =>
      simpa using inductionHypothesis (mirrors.takeItem item)

end ClusterCache.Replica
