import ClusterCache.Proofs.Informer.Tellings
import ClusterCache.Proofs.Store.Connections

/-!
# Cancelled loops

A loop whose token is cancelled is frozen, whenever that happens. Between two turns nothing more is
taken in or told. In the middle of a telling, by one of the handlers, the remaining handlers of that
telling are still called, and that is all. Either way the replica stays what it was. Main statement:
this holds of every run of a loop, in any world in which only the loop touches its replica; the
store is such a world for each of its informers.
-/

namespace ClusterCache

namespace Store

/-! ## The store as a world -/

/-- What touches no replica, undoes no cancellation and opens no stream respects every loop. -/
theorem respects_of_continues {before after : Store} (id : InformerId)
    (continues : before.informers.Continues after.informers)
    (sources : after.informers.sources = before.informers.sources) :
    (surroundings id).Respects before after := by
  refine ⟨continues.replica id, fun cancelled => ?_⟩
  by_cases used : id < before.informers.started.length
  · exact continues.isStopped used cancelled
  · have sameLength := congrArg List.length sources
    simp only [Informers.sources, List.length_map] at sameLength
    have unusedAfter : after.informers.started.length ≤ id := by
      rw [sameLength]
      exact Nat.le_of_not_lt used
    have cancelledToken := continues.tokens _ cancelled
    change after.informers.isStopped id = true
    rw [Informers.isStopped, Informers.informer_of_le unusedAfter]
    rwa [Informers.informer_of_le (Nat.le_of_not_lt used)] at cancelledToken

/-- To change an informer without its replica and its token respects every loop. -/
theorem respects_modify (id other : InformerId) (store : Store)
    {change : Informer Listener → Informer Listener}
    (replica : (change (store.informers.informer other)).replica =
      (store.informers.informer other).replica)
    (token : (change (store.informers.informer other)).token =
      (store.informers.informer other).token) :
    (surroundings id).Respects store
      { store with informers := store.informers.modify other change } := by
  have keptReplica :=
    Informers.informer_modify_eq store.informers other Informer.replica replica id
  have keptToken := Informers.informer_modify_eq store.informers other Informer.token token id
  refine ⟨keptReplica, fun cancelled => ?_⟩
  change (store.informers.modify other change).isStopped id = true
  rw [Informers.isStopped, keptToken]
  exact cancelled

/-- In the store only the loop of an informer touches its replica, and no listener calls a
cancellation back. -/
theorem lawful_surroundings (id : InformerId) : (surroundings id).Lawful where
  call entry change store :=
    respects_of_continues id (continues_tell entry change store)
      (keepsStreams_tell entry change store).sources
  replace _ store replica token := respects_modify id id store replica token

def receive (id : InformerId) (item : StreamItem) (store : Store) : Store :=
  { store with informers := store.informers.modify id (·.send item) }

theorem respects_receive (id other : InformerId) (item : StreamItem) (store : Store) :
    (surroundings id).Respects store (store.receive other item) :=
  respects_modify id other store (Informer.replica_send _ item) (Informer.token_send _ item)

end Store

namespace Surroundings

variable {ω η : Type} (around : Surroundings ω η)

/-- Where a cancellation strikes a run, the run freezes. -/
structure Freezes (events : List (Event ω)) (world : ω) : Prop where
  /-- Whoever is told about a change was registered when the telling of that change began. -/
  heard : around.heard events world = (around.history events world).flatMap around.entries
  /-- A turn tells the changes of its item in order, and leaves out at most the last ones. -/
  order : ∀ first last item, events = first ++ .turn :: last →
    around.next? (around.afterAll first world) = some item →
    (around.turnTellings (around.afterAll first world)).map Telling.change <+:
      ((around.informer (around.afterAll first world)).replica.takeItem item).2
  /-- No telling begins under a cancelled token. -/
  going : ∀ telling ∈ around.history events world, around.isCancelled telling.began = false
  /-- The token is cancelled between two events. -/
  between : ∀ first last, events = first ++ last →
    around.isCancelled (around.afterAll first world) = true →
    (around.informer (around.afterAll events world)).replica =
        (around.informer (around.afterAll first world)).replica ∧
      around.consumed last (around.afterAll first world) = [] ∧
      around.heard last (around.afterAll first world) = []
  /-- The token is cancelled in the middle of a telling, when some of its handlers have been
  called and some have not. -/
  within : ∀ first telling rest called remaining,
    around.history events world = first ++ telling :: rest →
    around.audience telling = called ++ remaining →
    around.isCancelled (around.callEach telling.change called telling.began) = true →
    rest = [] ∧
      (around.informer (around.afterAll events world)).replica =
        (around.informer (around.callEach telling.change called telling.began)).replica ∧
      around.heard events world =
        (first.flatMap around.entries ++ called.map fun entry => (entry.id, telling.change)) ++
          remaining.map fun entry => (entry.id, telling.change)

/-- Every run of a loop freezes where its token is cancelled, whatever its handlers do and whatever
else happens, as long as only the loop touches its replica and what is cancelled stays so. -/
theorem freezes_of_lawful (lawful : around.Lawful) (events : List (Event ω))
    (areLawful : ∀ event ∈ events, event.IsLawful around) (world : ω) :
    around.Freezes events world where
  heard := around.heard_eq_flatMap events world
  order := by
    intro first last item _ next
    rw [turnTellings, next, ← lawful.news_eq]
    exact around.tellings_prefix _ _
  going telling member := around.going_of_mem_history member
  between := by
    rintro first last rfl cancelled
    have lastLawful : ∀ event ∈ last, event.IsLawful around :=
      fun event member => areLawful event (List.mem_append_right _ member)
    obtain ⟨respects, noTellings, nothing⟩ := lawful.frozen_afterAll cancelled lastLawful
    refine ⟨?_, nothing, ?_⟩
    · rw [around.afterAll_append, respects.replica]
    · rw [around.heard_eq_flatMap, noTellings]
      rfl
  within := by
    intro first telling rest called remaining split audience cancelled
    have others := lawful.respects_rest audience
    obtain ⟨noRest, respects⟩ :=
      lawful.history_split areLawful split (others.cancelled cancelled)
    refine ⟨noRest, (others.trans respects).replica, ?_⟩
    have entries : around.entries telling =
        (called.map fun entry => (entry.id, telling.change)) ++
          remaining.map fun entry => (entry.id, telling.change) := by
      rw [entries, audience, List.map_append]
    rw [around.heard_eq_flatMap, split, noRest]
    simp [entries]

/-! Two listeners on the nodes, of which the first stops the informer at the first node. The list
holds a second node, and a third is sent later. -/

def nodes : ApiResource := .served "" "v1" "Node" "nodes"

def node (name : String) : Object :=
  ⟨none, { (default : Metadata) with name := some name, resourceVersion := some "1" },
    Dictionary.empty⟩

def nodeStore : Store :=
  let subscribed (store : Store) (listener : Listener) : Store :=
    (store.subscribe 0 (.ofResource nodes) (.ofScope "" "v1" "Node") listener).1
  subscribed
    (subscribed ((Store.start .standard 0).obtainInformer nodes).1
      ⟨"first", [(.added, .stop (.ofResource nodes))]⟩)
    ⟨"second", []⟩

def nodeEvents : List (Event Store) :=
  [.outside (Store.receive 0 (.event .init)), .turn,
    .outside (Store.receive 0 (.event (.initApply (node "blue")))), .turn,
    .outside (Store.receive 0 (.event (.initApply (node "green")))), .turn,
    .outside (Store.receive 0 (.event .initDone)), .turn,
    .outside (Store.receive 0 (.event (.apply (node "red")))), .turn, .turn]

theorem freezes_of_lawful_nodes :
    (Store.surroundings 0).Lawful ∧
      (∀ event ∈ nodeEvents, event.IsLawful (Store.surroundings 0)) ∧
      (Store.surroundings 0).Freezes nodeEvents nodeStore ∧
      (Store.surroundings 0).heard nodeEvents nodeStore =
        [(⟨0, 0⟩, .added (node "blue")), (⟨0, 1⟩, .added (node "blue"))] := by
  have lawful := Store.lawful_surroundings 0
  have areLawful : ∀ event ∈ nodeEvents, event.IsLawful (Store.surroundings 0) := by
    intro event member
    cases event with
    | turn => trivial
    | outside act =>
        simp only [nodeEvents, List.mem_cons, List.not_mem_nil, Event.outside.injEq,
          reduceCtorEq, false_or, or_false] at member
        rcases member with rfl | rfl | rfl | rfl | rfl <;>
          exact fun store => Store.respects_receive 0 0 _ store
  exact ⟨lawful, areLawful, freezes_of_lawful _ lawful nodeEvents areLawful nodeStore, rfl⟩

end Surroundings

end ClusterCache
