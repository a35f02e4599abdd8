import ClusterCache.Proofs.Store.Closing
import ClusterCache.Proofs.System.Loading
import ClusterCache.Proofs.System.Requests
import ClusterCache.Proofs.System.Reset

/-!
# A shutdown is final

After a shutdown calls go on as before: kinds are mapped, informers are started, the records are
kept. Main statement: all the same no loop takes an item in, nobody is told anything, no scope is
noted as loaded, and whoever is returned objects gets an empty list of a scope that is loading, or
no object, whatever had been cached before. This also holds when a listener shuts the store down
while it is told about a change, and that change is then the last one that anybody is told.
-/

namespace ClusterCache

namespace System

/-- Whatever moves follow, the system stays shut down. -/
structure Final (shut : System) (later : List Move) : Prop where
  /-- All informers are stopped, those that were started since too. -/
  stopped : ∀ id, (shut.run later).store.informers.isStopped id = true
  /-- No loop takes an item in. -/
  consumed : ∀ id, shut.consumed id later = []
  replica : ∀ id, ((shut.run later).store.informers.informer id).replica =
    (shut.store.informers.informer id).replica
  /-- No handler is told about a change, whenever it was registered. -/
  heard : ∀ watch, shut.heard watch later = []
  journal : shut.store.TellsNobody (shut.run later).store
  /-- No move notes a scope as loaded. -/
  loading : ∀ move,
    (shut.run later).store.loading.LoadsNothing ((shut.run later).apply move).store.loading
  /-- A list that passes the gate and whose kind is mapped returns. -/
  lists : ∀ {call : CallId} {key : Key} {client : ClientId} {request : Request}
    (resource : ApiResource),
    (shut.run later).calls[call]? = some ⟨.list key, .asking client request .map⟩ →
    ((shut.run later).apply (.answer call (.resource (.ok resource)))).calls[call]? =
      some ⟨.list key, .finished (.ok (.listed [] true))⟩
  gets : ∀ {call : CallId} {key : Key} {client : ClientId} {request : Request}
    (resource : ApiResource),
    (shut.run later).calls[call]? = some ⟨.get key, .asking client request .map⟩ →
    ((shut.run later).apply (.answer call (.resource (.ok resource)))).calls[call]? =
      some ⟨.get key, .finished (.ok (.found none))⟩
  /-- Nothing else is returned in the place of objects. -/
  returns : ∀ {move : Move} {call : CallId} {operation : Operation} {outcome : Outcome},
    (shut.run later).Returns move call operation (.ok outcome) → outcome.isObjects = true →
    outcome = .listed [] true ∨ outcome = .found none

theorem calls_answer_map {system : System} {call : CallId} {operation : Operation}
    {client : ClientId} {request : Request}
    (asks : system.calls[call]? = some ⟨operation, .asking client request .map⟩)
    (resource : ApiResource) :
    (system.apply (.answer call (.resource (.ok resource)))).calls[call]? =
      some ⟨operation, (system.store.mapped call operation resource).2⟩ :=
  (apply_of_isMoveOf asks (isMoveOf_answer asks _)).2

section Closed

variable {system : System} (closed : system.store.informers.Closed)

include closed

theorem closed_run (moves : List Move) : (system.run moves).store.informers.Closed :=
  closed.of_persists (persists_run system moves)

theorem taken_of_closed (id : InformerId) (move : Move) : taken id system move = [] := by
  rcases taken_cases system id move with nothing | ⟨item, _, next⟩
  · exact nothing
  · rw [Store.next?_of_closed closed] at next
    cases next

theorem told_of_closed (watch : WatchId) (move : Move) : told watch system move = [] := by
  cases move with
  | turn id => exact Store.heardBy_turn_of_none (Store.next?_of_closed closed id) watch
  | _ => rfl

theorem replica_run_of_closed (moves : List Move) (id : InformerId) :
    ((system.run moves).store.informers.informer id).replica =
      (system.store.informers.informer id).replica := by
  induction moves using List.reverseRecOn with
  | nil => rfl
  | append_singleton moves move inductionHypothesis =>
      rw [run_concat, replica_apply, taken_of_closed (closed_run closed moves)]
      exact inductionHypothesis

theorem tellsNobody_apply (move : Move) :
    system.store.TellsNobody (system.apply move).store := by
  by_cases foreign : ∀ call, system.isMoveOf call move = false
  · rcases idle_of_foreign foreign with noCall | same
    · refine Store.tellsNobody_of_journal ?_
      cases move with
      | turn id => exact Store.journal_turn_of_none (Store.next?_of_closed closed id)
      | wake number =>
          simp only [apply, modify]
          split
          · rename_i entry _
            obtain ⟨waiters, loading, woken⟩ := Store.wake_eq system.store entry
            rw [woken]
          · rfl
      | begin operation | enter call | takeLock call | answer call answer | giveUp call =>
          cases noCall
      | _ => rfl
    · rw [same]
      exact Store.tellsNobody_of_journal rfl
  · obtain ⟨call, own⟩ : ∃ call, system.isMoveOf call move = true := by simpa using foreign
    obtain ⟨current, _, goes⟩ := goes_apply own
    exact goes.tellsNobody

theorem tellsNobody_run (moves : List Move) :
    system.store.TellsNobody (system.run moves).store := by
  induction moves using List.reverseRecOn with
  | nil => exact Store.tellsNobody_of_journal rfl
  | append_singleton moves move inductionHypothesis =>
      rw [run_concat]
      exact inductionHypothesis.trans (tellsNobody_apply (closed_run closed moves) move)

theorem loadsNothing_apply (move : Move) :
    system.store.loading.LoadsNothing (system.apply move).store.loading := by
  -- Calls note scopes as loading only, and a waiter's informer is stopped.
  by_cases isCall : move.isCall = true
  · have performed : (system.apply move).store.loading =
        (system.store.perform (system.deed move)).loading :=
      congrArg Holdings.loading (holdings_apply isCall)
    rw [performed]
    exact Store.loadsNothing_perform system.store _
  · have kept : (system.apply move).store.loading = system.store.loading := by
      cases move with
      | turn id => exact (Store.keeps_turn system.store id).loading
      | wake number =>
          simp only [apply, modify]
          split
          · exact Store.loading_wake_of_stopped (closed.isStopped _)
          · rfl
      | begin operation | enter call | takeLock call | answer call answer | giveUp call =>
          exact absurd rfl isCall
      | _ => rfl
    rw [kept]
    exact Loading.LoadsNothing.refl _

theorem final_of_closed (later : List Move) : system.Final later := by
  have closedLater := closed_run closed
  constructor
  case stopped => exact (closedLater later).isStopped
  case consumed =>
    exact fun id => collect_eq_nil fun first move _ _ => taken_of_closed (closedLater first) id move
  case replica => exact replica_run_of_closed closed later
  case heard =>
    exact fun watch =>
      collect_eq_nil fun first move _ _ => told_of_closed (closedLater first) watch move
  case journal => exact tellsNobody_run closed later
  case loading => exact loadsNothing_apply (closedLater later)
  case lists =>
    intro call key client request resource asks
    rw [calls_answer_map asks, Store.mapped_list_of_closed (closedLater later)]
  case gets =>
    intro call key client request resource asks
    rw [calls_answer_map asks, Store.mapped_get_of_closed (closedLater later)]
  case returns =>
    intro move call operation outcome returned objects
    obtain ⟨client, request, resource, _, _, mapped⟩ := asking_of_returns returned objects
    exact Store.mapped_of_closed (closedLater later) call resource mapped objects

end Closed

/-- A turn in the middle of which a listener shuts the store down tells nothing after that. -/
theorem turn_of_shutsDown {system : System} {id : InformerId} {first rest : List (Telling Store)}
    {telling : Telling Store} {entry : Subscription Listener}
    (split : (Store.surroundings id).turnTellings system.store = first ++ telling :: rest)
    (told : entry ∈ (Store.surroundings id).audience telling)
    (shutsDown : entry.handler.ShutsDown telling.change) :
    rest = [] ∧ (system.apply (.turn id)).store.informers.Closed := by
  -- Those who are still to be told in this telling are told; then the token is found cancelled.
  have closed := Store.closed_afterTelling told shutsDown
  have tellings : (Store.surroundings id).eventTellings system.store .turn =
      first ++ telling :: rest := split
  obtain ⟨noRest, turned⟩ := Surroundings.eventTellings_split tellings (closed.isStopped id)
  have after : (system.apply (.turn id)).store =
      (Store.surroundings id).afterTelling telling := turned
  rw [after]
  exact ⟨noRest, closed⟩

/-- A shutdown is final, from outside and by a listener that is told about a change. -/
theorem shutdown_final (now : System) (later : List Move) :
    (now.apply .shutdown).Final later ∧
      ∀ id first telling rest entry,
        (Store.surroundings id).turnTellings now.store = first ++ telling :: rest →
        entry ∈ (Store.surroundings id).audience telling →
        entry.handler.ShutsDown telling.change →
        rest = [] ∧ (now.apply (.turn id)).Final later := by
  constructor
  · exact final_of_closed (Informers.closed_shutdown now.store.informers) later
  · intro id first telling rest entry split told shutsDown
    obtain ⟨noRest, closed⟩ := turn_of_shutsDown split told shutsDown
    exact ⟨noRest, final_of_closed closed later⟩

/-! The first of two nodes makes a listener shut the store down, and is asked for afterwards. -/

def closingRun : List Move :=
  [.presetDecision ⟨"", "", "nodes", Verb.watch.text⟩ true,
    .presetDecision ⟨"", "", "nodes", Verb.get.text⟩ true,
    .begin (.watch nodeKey ⟨"nodes", [(.added, .shutdown)]⟩ ⟨"", "v1", "nodes"⟩),
    .answer 0 nodeAnswer, .answer 0 nodeAnswer, .send 0 (.event .init),
    .send 0 (.event (.initApply (Surroundings.node "blue"))),
    .send 0 (.event (.initApply (Surroundings.node "green"))), .send 0 (.event .initDone),
    .turn 0, .turn 0, .turn 0]

def closedRun : List Move :=
  [.wake 0, .begin (.get { nodeKey with name := some "blue" }), .answer 1 nodeAnswer,
    .answer 1 nodeAnswer,
    .send 0 (.event (.apply (Surroundings.node "red"))), .turn 0]

theorem shutdown_final_nodes :
    ∃ telling entry,
      (Store.surroundings 0).turnTellings ((start .standard 0).run closingRun).store =
          [telling] ∧
        entry ∈ (Store.surroundings 0).audience telling ∧
        entry.handler.ShutsDown telling.change ∧
        (((start .standard 0).run closingRun).apply (.turn 0)).Final closedRun ∧
        ((((start .standard 0).run closingRun).apply (.turn 0)).run closedRun).stage? 1 =
          some (.finished (.ok (.found none))) := by
  refine ⟨_, _, rfl, List.mem_singleton.2 rfl, ⟨.added, List.mem_singleton.2 rfl, rfl⟩, ?_, rfl⟩
  exact ((shutdown_final ((start .standard 0).run closingRun) closedRun).2 0 [] _ [] _ rfl
    (List.mem_singleton.2 rfl) ⟨.added, List.mem_singleton.2 rfl, rfl⟩).2

end System

end ClusterCache
