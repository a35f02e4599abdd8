import ClusterCache.Proofs.Store.Loops
import ClusterCache.Proofs.Store.Steps

/-!
# Which connections and streams a store uses

An informer reads the stream that it was started on, for good; a new one is started on the
connection that the informers use then. Neither loops nor listeners start informers or change
connections.
-/

namespace ClusterCache

/-! ## Streams -/

namespace Informers

variable {η : Type}

/-- The streams that the informers read, in the order in which they were started. -/
def sources (informers : Informers η) : List Source := informers.started.map Prod.fst

theorem source?_eq (informers : Informers η) (id : InformerId) :
    informers.source? id = informers.sources[id]? := by
  simp [source?, sources]

@[simp] theorem sources_modify (informers : Informers η) (id : InformerId)
    (change : Informer η → Informer η) :
    (informers.modify id change).sources = informers.sources := by
  apply List.ext_getElem?
  intro other
  simp only [sources, modify, List.getElem?_map, List.getElem?_modify]
  cases informers.started[other]? with
  | none => rfl
  | some entry => by_cases same : id = other <;> simp [same]

/-- The informers read the streams that they read before, and further ones on the connection that
was in use. -/
def Opens (before after : Informers η) : Prop :=
  ∃ opened, after.sources = before.sources ++ opened ∧
    ∀ source ∈ opened, source.client = before.client

theorem opens_of_sources {before after : Informers η} (same : after.sources = before.sources) :
    before.Opens after :=
  ⟨[], by rw [same, List.append_nil], fun _ member => absurd member List.not_mem_nil⟩

theorem opens_obtain (informers : Informers η) (resource : ApiResource) :
    informers.Opens (informers.obtain resource).1 := by
  unfold obtain
  split
  · exact opens_of_sources rfl
  · refine ⟨[⟨informers.client, resource.plural, informers.ns⟩], ?_, ?_⟩
    · simp [sources, start]
    · intro source member
      rw [List.mem_singleton.1 member]

theorem Opens.source? {before after : Informers η} (opens : before.Opens after) {id : InformerId}
    (used : id < before.started.length) : after.source? id = before.source? id := by
  obtain ⟨opened, same, _⟩ := opens
  have isOld : id < before.sources.length := by simpa [sources] using used
  rw [source?_eq, source?_eq, same, List.getElem?_append_left isOld]

/-- A stream that was not read before is read on the connection that was in use. -/
theorem Opens.client_of_new {before after : Informers η} (opens : before.Opens after)
    {id : InformerId} (isNew : before.started.length ≤ id) {source : Source}
    (reads : after.source? id = some source) : source.client = before.client := by
  obtain ⟨opened, same, onClient⟩ := opens
  have isNew : before.sources.length ≤ id := by simpa [sources] using isNew
  rw [source?_eq, same, List.getElem?_append_right isNew] at reads
  exact onClient source (List.mem_of_getElem? reads)

end Informers

namespace Store

theorem opens_perform (store : Store) (deed : Deed) :
    store.informers.Opens (store.perform deed).informers := by
  have serves : ∀ key resource,
      store.informers.Opens (store.serve key resource).1.informers := by
    intro key resource
    rw [informers_serve]
    exact Informers.opens_obtain store.informers resource
  cases deed with
  | serve key resource => exact serves key resource
  | watch key resource listener type =>
      obtain ⟨opened, same, onClient⟩ := serves key resource
      exact ⟨opened, (Informers.sources_modify _ _ _).trans same, onClient⟩
  | _ => exact Informers.opens_of_sources rfl

/-! ## Loops and listeners -/

/-- The stores use the same connections and read the same streams. -/
structure KeepsStreams (before after : Store) : Prop where
  connections : after.connections = before.connections
  sources : after.informers.sources = before.informers.sources

theorem KeepsStreams.refl (store : Store) : store.KeepsStreams store := ⟨rfl, rfl⟩

theorem KeepsStreams.trans {first second third : Store} (left : first.KeepsStreams second)
    (right : second.KeepsStreams third) : first.KeepsStreams third :=
  ⟨right.connections.trans left.connections, right.sources.trans left.sources⟩

/-- Changing an informer changes neither connections nor streams. -/
theorem keepsStreams_modify (store : Store) (id : InformerId)
    (change : Informer Listener → Informer Listener) :
    store.KeepsStreams { store with informers := store.informers.modify id change } :=
  ⟨rfl, Informers.sources_modify _ id change⟩

theorem keepsStreams_react (store : Store) (own : String) (reaction : Reaction) :
    store.KeepsStreams (store.react own reaction) := by
  cases reaction with
  | shutdown => exact ⟨rfl, rfl⟩
  | stop type => exact ⟨rfl, rfl⟩
  | unsubscribe label =>
      simp only [react, unsubscribe]
      split
      · exact KeepsStreams.refl store
      · split
        · exact KeepsStreams.refl store
        · exact keepsStreams_modify store _ _
  | subscribe type label key =>
      simp only [react]
      split
      · exact ⟨rfl, Informers.sources_modify _ _ _⟩
      · exact KeepsStreams.refl store

theorem keepsStreams_tell (subscription : Subscription Listener) (change : Change)
    (store : Store) : store.KeepsStreams (tell subscription change store) :=
  tell_keeps KeepsStreams KeepsStreams.refl KeepsStreams.trans (fun _ _ => ⟨rfl, rfl⟩)
    keepsStreams_react subscription change store

theorem keepsStreams_turn (store : Store) (id : InformerId) :
    store.KeepsStreams ((surroundings id).turn store) := by
  cases next : store.next? id with
  | some item =>
      rw [turn_eq_deliver next]
      have taken : store.KeepsStreams (store.takenIn id item) := keepsStreams_modify store id _
      exact taken.trans ((surroundings id).deliver_keeps KeepsStreams KeepsStreams.refl
        KeepsStreams.trans keepsStreams_tell _ _)
  | none =>
      rcases (surroundings id).turn_of_next?_none next with same | stopped
      · rw [same]
        exact KeepsStreams.refl store
      · rw [stopped]
        exact keepsStreams_modify store id _

theorem keepsStreams_wake (store : Store) (waiter : Waiter) :
    store.KeepsStreams (store.wake waiter) := by
  obtain ⟨waiters, loading, same⟩ := wake_eq store waiter
  rw [same]
  exact ⟨rfl, rfl⟩

end Store

end ClusterCache
