import ClusterCache.Proofs.Replica.Mirror
import ClusterCache.Proofs.System.Moves

/-!
# Informers mirror their streams

However calls, loops, waiters and streams are interleaved, the replica of an informer depends on
nothing but the items that its loop has taken in. Main statement: at every moment of every run it
holds the contents that these items describe, and it is synced as soon as one of them completed a
list.
-/

namespace ClusterCache.System

open Contents

/-- The item that the loop of an informer takes in by a move. -/
def taken (id : InformerId) (system : System) : Move → List StreamItem
  | .turn other => if other = id then (system.store.next? id).toList else []
  | _ => []

/-- An informer takes in one item by its turn, or nothing. -/
theorem taken_cases (system : System) (id : InformerId) (move : Move) :
    taken id system move = [] ∨
      ∃ item, move = .turn id ∧ system.store.next? id = some item := by
  cases move with
  | turn other =>
      by_cases same : other = id
      · subst same
        cases next : system.store.next? other with
        | none => exact Or.inl (by simp [taken, next])
        | some item => exact Or.inr ⟨item, rfl, rfl⟩
      · exact Or.inl (by simp [taken, same])
  | _ => exact Or.inl rfl

/-- The items that the loop of an informer takes in along a run. -/
def consumed (system : System) (id : InformerId) (moves : List Move) : List StreamItem :=
  system.collect (taken id) moves

theorem consumed_append (system : System) (id : InformerId) (first second : List Move) :
    system.consumed id (first ++ second) =
      system.consumed id first ++ (system.run first).consumed id second :=
  collect_append (taken id) system first second

theorem consumed_concat (system : System) (id : InformerId) (moves : List Move) (move : Move) :
    system.consumed id (moves ++ [move]) =
      system.consumed id moves ++ taken id (system.run moves) move :=
  collect_concat (taken id) system moves move

/-- A turn that takes an item in changes the replica of its own informer, and no other. -/
theorem replica_turn {system : System} {id : InformerId} {item : StreamItem}
    (next : system.store.next? id = some item) (other : InformerId) :
    ((system.apply (.turn id)).store.informers.informer other).replica =
      if other = id then ((system.store.informers.informer id).replica.takeItem item).1
      else (system.store.informers.informer other).replica := by
  have used := Store.lt_length_of_next? next
  have turned : (system.apply (.turn id)).store =
      (Store.surroundings id).deliver (system.store.changesOf id item)
        (system.store.takenIn id item) := Store.turn_eq_deliver next
  rw [turned, (Store.continues_deliver id _ _).replica other]
  by_cases same : other = id
  · subst same
    simp only [Store.takenIn, if_true]
    rw [Informers.informer_modify_self used]
  · simp only [Store.takenIn, same, if_false]
    rw [Informers.informer_modify_of_ne _ same]

/-- A move changes the replica of an informer only by the item that its loop takes in. -/
theorem replica_apply (system : System) (move : Move) (id : InformerId) :
    ((system.apply move).store.informers.informer id).replica =
      (system.store.informers.informer id).replica.takeAll (taken id system move) := by
  by_cases noItem : ∀ other, move = .turn other → system.store.next? other = none
  · have nothing : taken id system move = [] := by
      cases move with
      | turn other =>
          simp only [taken]
          split
          · rename_i same
            rw [← same, noItem other rfl]
            rfl
          · rfl
      | _ => rfl
    rw [nothing, (continues_apply noItem).replica id]
    rfl
  · simp only [not_forall] at noItem
    obtain ⟨other, isTurn, someItem⟩ := noItem
    obtain ⟨item, next⟩ := Option.ne_none_iff_exists'.1 someItem
    subst isTurn
    rw [replica_turn next id]
    by_cases same : id = other
    · subst same
      simp [taken, next]
    · simp [taken, same, Ne.symm same]

theorem mirrors_apply {system : System} {id : InformerId} {items : List StreamItem}
    (mirrors : (system.store.informers.informer id).replica.Mirrors items) (move : Move) :
    ((system.apply move).store.informers.informer id).replica.Mirrors
      (items ++ taken id system move) := by
  rw [replica_apply]
  exact mirrors.takeAll _

/-- At every moment the replica of an informer mirrors what its loop has taken in. -/
theorem mirrors_run (config : StoreConfig) (client : ClientId) (id : InformerId)
    (moves : List Move) :
    (((start config client).run moves).store.informers.informer id).replica.Mirrors
      ((start config client).consumed id moves) := by
  induction moves using List.reverseRecOn with
  | nil => exact Replica.mirrors_empty
  | append_singleton moves move inductionHypothesis =>
      rw [run_concat, consumed_concat]
      exact mirrors_apply inductionHypothesis move

/-- The replica of an informer is computed from the consumed items alone. As long as no list is
complete only single changes count, single changes before the end of a list leave no trace after
it, failures say nothing, and what is synced stays synced. -/
theorem replica_described_by_consumed (config : StoreConfig) (client : ClientId)
    (id : InformerId) (moves : List Move) :
    (((start config client).run moves).store.informers.informer id).replica.Mirrors
        ((start config client).consumed id moves) ∧
      (∀ later : List Move,
        (((start config client).run moves).store.informers.informer id).replica.synced = true →
        (((start config client).run (moves ++ later)).store.informers.informer
          id).replica.synced = true) ∧
      (∀ before after : List StreamItem, (∀ item ∈ after, item.endsList = false) →
        described (before ++ after) = described (before ++ after.filter StreamItem.isChange)) ∧
      (∀ before between after : List StreamItem,
        described (before ++ between ++ .event .initDone :: after) =
          described (before ++ (between.filter fun item => !item.isChange)
            ++ .event .initDone :: after)) ∧
      (∀ before after : List StreamItem,
        described (before ++ .failure :: after) = described (before ++ after)) ∧
      ∀ object : Object, object.id =
        ⟨object.metadata.ns.getD "",
          (object.metadata.name.or object.metadata.generateName).getD ""⟩ := by
  refine ⟨mirrors_run config client id moves, ?_,
    fun before after unfinished => described_unfinished_list before unfinished,
    described_changes_before_list, described_failure, fun _ => rfl⟩
  intro later synced
  obtain ⟨item, member, ends⟩ := (mirrors_run config client id moves).synced.1 synced
  have later := mirrors_run config client id (moves ++ later)
  refine later.synced.2 ⟨item, ?_, ends⟩
  rw [consumed_append]
  exact List.mem_append_left _ member

end ClusterCache.System
