import ClusterCache.Proofs.Store.Tracking

/-!
# What watch loops and listeners leave alone

Listeners may stop informers, shut the store down and register further listeners. They reach neither
the gate nor the decisions and the locks, nor what is recorded about scopes and kinds, and they
leave no live informer unowned. The same goes for deeds as far as the informers are concerned.
-/

namespace ClusterCache.Store

/-- The gate, the decisions and locks, the records and the waiters are as they were. -/
structure Undisturbed (before after : Store) : Prop where
  gate : after.gate = before.gate
  access : after.access = before.access
  loading : after.loading = before.loading
  usage : after.usage = before.usage
  waiters : after.waiters = before.waiters
  waitersStarted : after.waitersStarted = before.waitersStarted

theorem Undisturbed.refl (store : Store) : store.Undisturbed store :=
  ⟨rfl, rfl, rfl, rfl, rfl, rfl⟩

theorem Undisturbed.trans {first second third : Store} (left : first.Undisturbed second)
    (right : second.Undisturbed third) : first.Undisturbed third where
  gate := right.gate.trans left.gate
  access := right.access.trans left.access
  loading := right.loading.trans left.loading
  usage := right.usage.trans left.usage
  waiters := right.waiters.trans left.waiters
  waitersStarted := right.waitersStarted.trans left.waitersStarted

/-- Owned informers stay owned, and besides them only the journal and the registrations change. -/
structure Keeps (before after : Store) : Prop extends Undisturbed before after where
  owned : before.informers.Owned → after.informers.Owned

theorem Keeps.refl (store : Store) : store.Keeps store := ⟨Undisturbed.refl store, id⟩

theorem Keeps.trans {first second third : Store} (left : first.Keeps second)
    (right : second.Keeps third) : first.Keeps third :=
  ⟨left.toUndisturbed.trans right.toUndisturbed, right.owned ∘ left.owned⟩

/-! ## Listeners -/

theorem owned_setHandlers {store : Store} (owned : store.informers.Owned) (id : InformerId)
    (handlers : Handlers Listener) :
    (store.informers.modify id fun informer => { informer with handlers }).Owned := by
  refine owned.of_steady (Informers.steady_modify store.informers id ?_ ?_ ?_)
  · rfl
  · rfl
  · exact fun synced => synced

theorem owned_subscribe {store : Store} (owned : store.informers.Owned) (id : InformerId)
    (type : ResourceType) (key : Key) (listener : Listener) :
    (store.subscribe id type key listener).1.informers.Owned :=
  owned_setHandlers owned id _

theorem keeps_unsubscribe (store : Store) (label : String) :
    store.Keeps (store.unsubscribe label).1 := by
  unfold unsubscribe
  split
  · exact Keeps.refl store
  · split
    · exact Keeps.refl store
    · exact ⟨⟨rfl, rfl, rfl, rfl, rfl, rfl⟩, fun owned => owned_setHandlers owned _ _⟩

theorem keeps_react (store : Store) (own : String) (reaction : Reaction) :
    store.Keeps (store.react own reaction) := by
  cases reaction with
  | shutdown => exact ⟨⟨rfl, rfl, rfl, rfl, rfl, rfl⟩, fun owned => owned.shutdown⟩
  | stop type => exact ⟨⟨rfl, rfl, rfl, rfl, rfl, rfl⟩, fun owned => owned.stop type⟩
  | unsubscribe label => exact keeps_unsubscribe store _
  | subscribe type label key =>
      simp only [react]
      split
      · exact ⟨⟨rfl, rfl, rfl, rfl, rfl, rfl⟩, fun owned =>
          owned_subscribe owned _ type key ⟨label, []⟩⟩
      · exact Keeps.refl store

theorem keeps_tell (subscription : Subscription Listener) (change : Change) (store : Store) :
    store.Keeps (tell subscription change store) :=
  tell_keeps Keeps Keeps.refl Keeps.trans (fun _ _ => ⟨⟨rfl, rfl, rfl, rfl, rfl, rfl⟩, id⟩)
    keeps_react subscription change store

/-! ## Loops -/

theorem keeps_takenIn (store : Store) (id : InformerId) (item : StreamItem) :
    store.Keeps (store.takenIn id item) := by
  refine ⟨⟨rfl, rfl, rfl, rfl, rfl, rfl⟩, fun owned => owned.of_steady ?_⟩
  simp only [takenIn]
  refine Informers.steady_modify store.informers id ?_ ?_ ?_
  · rfl
  · rfl
  · exact fun synced => Tracked.synced_takeItem synced item

/-- A turn of a loop keeps everything but what its informer has and whom it tells. -/
theorem keeps_turn (store : Store) (id : InformerId) :
    store.Keeps ((surroundings id).turn store) := by
  cases next : store.next? id with
  | some item =>
      rw [turn_eq_deliver next]
      exact (keeps_takenIn store id item).trans
        ((surroundings id).deliver_keeps Keeps Keeps.refl Keeps.trans keeps_tell _ _)
  | none =>
      rcases (surroundings id).turn_of_next?_none next with same | stopped
      · rw [same]
        exact Keeps.refl store
      · rw [stopped]
        refine ⟨⟨rfl, rfl, rfl, rfl, rfl, rfl⟩, fun owned => owned.of_steady ?_⟩
        change store.informers.Steady (store.informers.modify id fun _ =>
          { store.informers.informer id with running := false })
        exact Informers.steady_modify store.informers id rfl rfl fun synced => synced

/-! ## Deeds -/

theorem owned_serve {store : Store} (owned : store.informers.Owned) (key : Key)
    (resource : ApiResource) : (store.serve key resource).1.informers.Owned := by
  rw [informers_serve]
  exact owned.obtain resource

theorem owned_perform {store : Store} (owned : store.informers.Owned) (deed : Deed) :
    (store.perform deed).informers.Owned := by
  cases deed with
  | nothing => exact owned
  | serve key resource => exact owned_serve owned key resource
  | watch key resource listener type =>
      exact owned_subscribe (owned_serve owned key resource) _ type key listener
  | forget kind resource => exact owned.stop _
  | reset => exact owned.stopAll
  | changeClient client =>
      exact owned.of_steady (Informers.steady_changeClient store.informers client)

end ClusterCache.Store
