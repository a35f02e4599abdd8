import ClusterCache.Proofs.Replica.Replay

/-!
# What each item announces

A single change announces itself. The end of a list announces the difference between what was
stored and what was listed: an object that is new or has another version, then every object that
was not listed. Main statement: whatever item a replica takes in, the changes it yields announce it.
-/

namespace ClusterCache.Replica

open Change

/-! ## Single changes -/

theorem get?_insert_of_id_ne (objects : Objects) {object : Object} {id : ObjectId}
    (different : object.id ≠ id) : (objects.insert object.id object).get? id = objects.get? id :=
  Table.get?_insert_of_ne objects (Ne.symm different) object

theorem announce_nothing (objects : Objects) {item : StreamItem}
    (noChange : item.isChange = false) (other : item ≠ .event .initDone) :
    Announce objects objects item [] where
  added _ member := absurd member List.not_mem_nil
  updated _ _ member := absurd member List.not_mem_nil
  deleted _ member := absurd member List.not_mem_nil
  silent _ _ := rfl
  single isChange := by simp [noChange] at isChange
  once := List.nodup_nil
  complete _ _ := rfl
  quiet isEnd := absurd isEnd other
  ordered isEnd := absurd isEnd other

theorem announce_apply {objects : Objects} (object : Object) :
    Announce objects (objects.insert object.id object) (.event (.apply object))
      [match objects.get? object.id with
        | some old => .updated old object
        | none => .added object] where
  added other member := by
    cases stored : objects.get? object.id with
    | none =>
        have same : other = object := by simpa [stored] using member
        subst same
        exact ⟨stored, Table.get?_insert_self _ _ _⟩
    | some old => simp [stored] at member
  updated old new member := by
    cases stored : objects.get? object.id with
    | none => simp [stored] at member
    | some previous =>
        have same : old = previous ∧ new = object := by simpa [stored] using member
        obtain ⟨rfl, rfl⟩ := same
        exact ⟨stored, Table.get?_insert_self _ _ _⟩
  deleted other member := by
    cases stored : objects.get? object.id <;> simp [stored] at member
  silent noChange := by cases noChange
  single _ := rfl
  once := List.nodup_singleton _
  complete id others := by
    have different : object.id ≠ id := by
      cases stored : objects.get? object.id with
      | none => simpa [stored, Change.id, Change.object] using others
      | some old => simpa [stored, Change.id, Change.object] using others
    simp only [Versions.stored, get?_insert_of_id_ne objects different]
  quiet isEnd := by cases isEnd
  ordered isEnd := by cases isEnd

theorem announce_delete {objects : Objects} (filed : Filed objects) (object : Object) :
    Announce objects (objects.erase object.id) (.event (.delete object))
      [.deleted ((objects.get? object.id).getD object)] where
  added other member := by simp at member
  updated old new member := by simp at member
  deleted other member := by
    cases stored : objects.get? object.id with
    | none =>
        have same : other = object := by simpa [stored] using member
        subst same
        exact ⟨Or.inr ⟨stored, rfl⟩, Table.get?_erase_self _ _⟩
    | some old =>
        have same : other = old := by simpa [stored] using member
        subst same
        have ownId : other.id = object.id := filed.own stored
        rw [ownId]
        exact ⟨Or.inl stored, Table.get?_erase_self _ _⟩
  silent noChange := by cases noChange
  single _ := rfl
  once := List.nodup_singleton _
  complete id others := by
    have different : object.id ≠ id := by
      cases stored : objects.get? object.id with
      | none => simpa [stored, Change.id, Change.object] using others
      | some old =>
          rw [← filed.own stored]
          simpa [stored, Change.id, Change.object] using others
    simp only [Versions.stored, Table.get?_erase_of_ne objects (Ne.symm different)]
  quiet isEnd := by cases isEnd
  ordered isEnd := by cases isEnd

/-! ## The end of a list -/

/-- What was stored and not listed. -/
def missing (stored fresh : Objects) : List (ObjectId × Object) :=
  stored.entries.filter fun entry => !fresh.contains entry.1

theorem difference_eq (stored fresh : Objects) :
    difference stored fresh =
      fresh.entries.filterMap (replacement? stored)
        ++ (missing stored fresh).map fun entry => .deleted entry.2 := rfl

/-- A replacement is new, or it has another version than what it replaces. -/
theorem replacement?_eq_some {stored : Objects} {entry : ObjectId × Object} {change : Change}
    (replaced : replacement? stored entry = some change) :
    (stored.get? entry.1 = none ∧ change = .added entry.2) ∨
      ∃ old, stored.get? entry.1 = some old ∧
        old.resourceVersion ≠ entry.2.resourceVersion ∧ change = .updated old entry.2 := by
  unfold replacement? at replaced
  cases found : stored.get? entry.1 with
  | none => exact Or.inl ⟨rfl, by simpa [found] using replaced.symm⟩
  | some old =>
      by_cases sameVersion : old.resourceVersion = entry.2.resourceVersion
      · simp [found, sameVersion] at replaced
      · exact Or.inr ⟨old, rfl, sameVersion, by
          simpa [found, sameVersion] using replaced.symm⟩

theorem object_of_replacement? {stored : Objects} {entry : ObjectId × Object} {change : Change}
    (replaced : replacement? stored entry = some change) :
    change.object = entry.2 ∧ change.isRemoval = false := by
  rcases replacement?_eq_some replaced with ⟨_, rfl⟩ | ⟨old, _, _, rfl⟩
  · exact ⟨rfl, rfl⟩
  · exact ⟨rfl, rfl⟩

/-- Every change of a difference is a replacement by a listed object or a removal of one that was
not listed. -/
theorem mem_difference {stored fresh : Objects} {change : Change} :
    change ∈ difference stored fresh ↔
      (∃ entry ∈ fresh.entries, replacement? stored entry = some change) ∨
        ∃ entry ∈ missing stored fresh, .deleted entry.2 = change := by
  rw [difference_eq, List.mem_append, List.mem_filterMap, List.mem_map]

theorem mem_missing {stored fresh : Objects} (filed : Filed stored)
    {entry : ObjectId × Object} (member : entry ∈ missing stored fresh) :
    entry.2.id = entry.1 ∧ stored.get? entry.1 = some entry.2 ∧ fresh.get? entry.1 = none := by
  obtain ⟨inStored, notFresh⟩ := List.mem_filter.1 member
  have found := filed.distinct.get?_eq_some_iff.2 inStored
  exact ⟨filed.own found, found, by simpa [Table.contains] using notFresh⟩

theorem get?_of_mem_fresh {fresh : Objects} (filed : Filed fresh)
    {entry : ObjectId × Object} (member : entry ∈ fresh.entries) :
    entry.2.id = entry.1 ∧ fresh.get? entry.1 = some entry.2 := by
  have found := filed.distinct.get?_eq_some_iff.2 member
  exact ⟨filed.own found, found⟩

theorem id_of_replacement? {stored fresh : Objects} (filed : Filed fresh)
    {entry : ObjectId × Object} (member : entry ∈ fresh.entries) {change : Change}
    (replaced : replacement? stored entry = some change) : change.id = entry.1 := by
  unfold Change.id
  rw [(object_of_replacement? replaced).1, (get?_of_mem_fresh filed member).1]

/-- Replacements follow the order of what was listed. -/
theorem ids_written_sublist (stored : Objects) {entries : List (ObjectId × Object)}
    (own : ∀ entry ∈ entries, entry.2.id = entry.1) :
    ((entries.filterMap (replacement? stored)).map Change.id).Sublist
      (entries.map Prod.fst) := by
  induction entries with
  | nil => exact List.Sublist.slnil
  | cons entry rest inductionHypothesis =>
      have restSublist := inductionHypothesis fun other member =>
        own other (List.mem_cons_of_mem _ member)
      cases replaced : replacement? stored entry with
      | none =>
          rw [List.filterMap_cons_none replaced]
          exact restSublist.cons _
      | some change =>
          have sameId : change.id = entry.1 := by
            unfold Change.id
            rw [(object_of_replacement? replaced).1, own entry List.mem_cons_self]
          rw [List.filterMap_cons_some replaced, List.map_cons, List.map_cons, sameId]
          exact restSublist.cons_cons _

/-- The changes of a difference concern different identities. -/
theorem nodup_ids_difference {stored fresh : Objects} (filedStored : Filed stored)
    (filedFresh : Filed fresh) : ((difference stored fresh).map Change.id).Nodup := by
  have writtenIds := ids_written_sublist stored fun entry member =>
    (get?_of_mem_fresh filedFresh member).1
  have removedIds : ((missing stored fresh).map fun entry => (Change.deleted entry.2).id) =
      (missing stored fresh).map Prod.fst :=
    List.map_congr_left fun entry member => (mem_missing filedStored member).1
  have removedDistinct : ((missing stored fresh).map Prod.fst).Nodup :=
    filedStored.distinct.sublist (List.filter_sublist.map Prod.fst)
  rw [difference_eq, List.map_append, List.nodup_append, List.map_map]
  refine ⟨filedFresh.distinct.sublist writtenIds, ?_, ?_⟩
  · exact removedIds ▸ removedDistinct
  · intro id inWritten other inRemoved same
    obtain ⟨listed, inFresh, rfl⟩ := List.mem_map.1 (writtenIds.subset inWritten)
    obtain ⟨entry, inMissing, rfl⟩ := List.mem_map.1 inRemoved
    obtain ⟨own, _, gone⟩ := mem_missing filedStored inMissing
    have found := (get?_of_mem_fresh filedFresh inFresh).2
    have sameKey : listed.1 = entry.1 := same.trans own
    rw [sameKey, gone] at found
    cases found

/-- What is listed in another version, or was not stored, is told of. -/
theorem replacement?_of_quiet {stored fresh : Objects} (filedFresh : Filed fresh)
    {id : ObjectId} (others : ∀ change ∈ difference stored fresh, change.id ≠ id)
    {new : Object} (listed : fresh.get? id = some new) :
    ∃ old, stored.get? id = some old ∧ old.resourceVersion = new.resourceVersion := by
  have inFresh := Table.mem_entries_of_get? listed
  have unreplaced : replacement? stored (id, new) = none := by
    refine Option.eq_none_iff_forall_not_mem.2 fun change replaced => ?_
    have member := mem_difference.2 (Or.inl ⟨(id, new), inFresh, replaced⟩)
    exact others change member (id_of_replacement? filedFresh inFresh replaced)
  unfold replacement? at unreplaced
  cases found : stored.get? id with
  | none => simp [found] at unreplaced
  | some old => exact ⟨old, rfl, by simpa [found] using unreplaced⟩

/-- The difference announces the end of a list. -/
theorem announce_difference {stored fresh : Objects} (filedStored : Filed stored)
    (filedFresh : Filed fresh) :
    Announce stored fresh (.event .initDone) (difference stored fresh) where
  added object member := by
    rcases mem_difference.1 member with ⟨entry, inFresh, replaced⟩ | ⟨entry, _, isRemoval⟩
    · obtain ⟨own, found⟩ := get?_of_mem_fresh filedFresh inFresh
      rcases replacement?_eq_some replaced with ⟨absent, same⟩ | ⟨old, _, _, same⟩
      · cases same
        rw [own]
        exact ⟨absent, found⟩
      · cases same
    · cases isRemoval
  updated old new member := by
    rcases mem_difference.1 member with ⟨entry, inFresh, replaced⟩ | ⟨entry, _, isRemoval⟩
    · obtain ⟨own, found⟩ := get?_of_mem_fresh filedFresh inFresh
      rcases replacement?_eq_some replaced with ⟨absent, same⟩ | ⟨previous, before, _, same⟩
      · cases same
      · cases same
        rw [own]
        exact ⟨before, found⟩
    · cases isRemoval
  deleted object member := by
    rcases mem_difference.1 member with ⟨entry, _, replaced⟩ | ⟨entry, inMissing, isRemoval⟩
    · rcases replacement?_eq_some replaced with ⟨_, same⟩ | ⟨_, _, _, same⟩ <;> cases same
    · obtain ⟨own, found, gone⟩ := mem_missing filedStored inMissing
      cases isRemoval
      rw [own]
      exact ⟨Or.inl found, gone⟩
  silent _ noEnd := by cases noEnd
  single isChange := by cases isChange
  once := nodup_ids_difference filedStored filedFresh
  complete id others := by
    cases listed : fresh.get? id with
    | some new =>
        obtain ⟨old, before, sameVersion⟩ := replacement?_of_quiet filedFresh others listed
        simp [Versions.stored, listed, before, sameVersion]
    | none =>
        cases before : stored.get? id with
        | none => simp [Versions.stored, listed, before]
        | some old =>
            have inMissing : (id, old) ∈ missing stored fresh :=
              List.mem_filter.2 ⟨Table.mem_entries_of_get? before, by
                simp [Table.contains, listed]⟩
            have member := mem_difference.2 (Or.inr ⟨(id, old), inMissing, rfl⟩)
            exact absurd (filedStored.own before) (others _ member)
  quiet _ id old new before after sameVersion change member concerned := by
    rcases mem_difference.1 member with ⟨entry, inFresh, replaced⟩ | ⟨entry, inMissing, rfl⟩
    · have sameKey : entry.1 = id :=
        (id_of_replacement? filedFresh inFresh replaced).symm.trans concerned
      have found := (get?_of_mem_fresh filedFresh inFresh).2
      rw [sameKey, after] at found
      rcases replacement?_eq_some replaced with ⟨absent, _⟩ | ⟨previous, stored, differs, _⟩
      · rw [sameKey, before] at absent
        cases absent
      · rw [sameKey, before] at stored
        rw [← Option.some.inj stored, ← Option.some.inj found] at differs
        exact differs sameVersion
    · obtain ⟨own, _, gone⟩ := mem_missing filedStored inMissing
      have sameKey : entry.1 = id := own.symm.trans concerned
      rw [sameKey, after] at gone
      cases gone
  ordered _ := by
    refine ⟨_, _, difference_eq stored fresh, ?_, ?_⟩
    · intro change member
      obtain ⟨entry, _, replaced⟩ := List.mem_filterMap.1 member
      exact (object_of_replacement? replaced).2
    · intro change member
      obtain ⟨entry, _, rfl⟩ := List.mem_map.1 member
      rfl

/-! ## Items -/

/-- Whatever item a replica takes in, the changes it yields announce it. -/
theorem announce_takeItem {replica : Replica} {items : List StreamItem}
    (mirrors : replica.Mirrors items) (item : StreamItem) :
    Announce replica.objects (replica.takeItem item).1.objects item
      (replica.takeItem item).2 := by
  cases item with
  | failure => exact announce_nothing replica.objects rfl (by simp)
  | event event =>
      cases event with
      | init => exact announce_nothing replica.objects rfl (by simp)
      | initApply object => exact announce_nothing replica.objects rfl (by simp)
      | initDone => exact announce_difference mirrors.filed mirrors.filed_incoming
      | apply object => exact announce_apply object
      | delete object => exact announce_delete mirrors.filed object

end ClusterCache.Replica
