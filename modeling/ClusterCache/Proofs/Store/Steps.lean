import ClusterCache.Proofs.Store.Inquiries

/-!
# Where a step of a call leads

By one step a call stays where it is, sends one request and waits for its answer, waits at a lock,
is given up, or ends. What it asks next is determined by its operation and by the answer it just
got, and so is the connection that it asks on: one that the store uses now, or the one that it asked
on before. Which connections the store uses changes only when a change of connection ends.
-/

namespace ClusterCache

/-- The outcome is had from an informer. -/
def Outcome.isServed : Outcome → Bool
  | .listed .. | .found _ | .watching _ => true
  | _ => false

/-- If the operation is about one object, its key names it. -/
def Operation.IsNamed : Operation → Prop
  | .get key | .delete key | .update key _ => ∃ name, key.name? = some name
  | _ => True

theorem Key.name?_of_requireName {key : Key} {name : String} (named : key.requireName = .ok name) :
    key.name? = some name := by
  unfold requireName at named
  split at named
  · rename_i found
    cases named
    exact found
  · cases named

theorem Key.getD_name {key : Key} {name : String} (named : key.name? = some name) :
    key.name.getD "" = name := by
  have given : key.name = some name := (Option.filter_eq_some_iff.1 named).1
  rw [given]
  rfl

/-- The connections that a store uses: for its own requests, to review access, and to open
streams. -/
structure Connections where
  client : ClientId
  access : ClientId
  informers : ClientId
deriving DecidableEq, Repr

namespace Store

def connections (store : Store) : Connections :=
  ⟨store.client, store.access.client, store.informers.client⟩

/-- The request that a call in a stage sends next, on which connection and for what. -/
inductive Asks (store : Store) (call : CallId) (operation : Operation) (move : Move) :
    Stage → ClientId → Request → Purpose → Prop
  | locates (key : Key) (verb : String) (demand : operation.demand? = some (key, verb)) :
      Asks store call operation move .arriving store.access.client
        (.resource key.groupVersionKind) .locate
  | reviews (stage : Stage) (access : AccessKey) (flight : FlightId) :
      Asks store call operation move stage store.access.client (.review access)
        (.review access flight)
  | maps (stage : Stage) (key : Key) (verb : Verb) (need : operation.need? = some (key, verb))
      (named : operation.IsNamed) :
      Asks store call operation move stage store.client (.resource key.groupVersionKind) .map
  | forgets (kind : GroupVersionKind) (rest : List GroupVersionKind)
      (unwatches : operation = .unwatch (kind :: rest)) :
      Asks store call operation move .arriving store.client (.resource kind) (.forget kind rest)
  | forgetsNext (client : ClientId) (request : Request) (last kind : GroupVersionKind)
      (rest : List GroupVersionKind) :
      Asks store call operation move (.asking client request (.forget last (kind :: rest))) client
        (.resource kind) (.forget kind rest)
  | deletes (client : ClientId) (request : Request) (resource : ApiResource) (key : Key)
      (deletes : operation = .delete key) :
      Asks store call operation move (.asking client request .map) store.client
        (.delete resource key.ns (key.name.getD "")) .write
  | reads (client : ClientId) (request : Request) (resource : ApiResource) (key : Key)
      (change : Object → Except Error Object) (updates : operation = .update key change) :
      Asks store call operation move (.asking client request .map) store.client
        (.get resource key.ns (key.name.getD "")) (.read resource)
  | replaces (client : ClientId) (request : Request) (resource : ApiResource) (key : Key)
      (change : Object → Except Error Object) (updates : operation = .update key change)
      (object written : Object) (answered : move = .answer call (.object (.ok (some object))))
      (changed : change object = .ok written) :
      Asks store call operation move (.asking client request (.read resource)) client
        (.replace resource written) .write

/-- Where a step leads a call in a stage, what the step notes in the journal, and which connections
are in use afterwards. -/
inductive Goes (store : Store) (call : CallId) (operation : Operation) (move : Move)
    (stage : Stage) : Store × Stage → Prop
  | stays {after : Store} (same : after.connections = store.connections)
      (silent : after.journal = store.journal) :
      Goes store call operation move stage (after, stage)
  | asks {after : Store} {client : ClientId} {request : Request} {purpose : Purpose}
      (same : after.connections = store.connections)
      (asks : Asks store call operation move stage client request purpose)
      (sent : after.journal = .sent client request :: store.journal) :
      Goes store call operation move stage (after, .asking client request purpose)
  | queues {after : Store} (same : after.connections = store.connections)
      (access : AccessKey) (flight : FlightId) (silent : after.journal = store.journal) :
      Goes store call operation move stage (after, .queuing access flight)
  | drops {after : Store} (same : after.connections = store.connections)
      (silent : after.journal = store.journal) :
      Goes store call operation move stage (after, .dropped)
  /-- It ends. Nothing but callbacks runs, and no informer has served it. -/
  | ends {after : Store} (same : after.connections = store.connections)
      (result : Except Error Outcome)
      (unserved : ∀ outcome, result = .ok outcome → outcome.isServed = false)
      (ran : List Entry) (journal : after.journal = ran ++ store.journal)
      (callbacks : ∀ entry ∈ ran, ∃ label, entry = .ran label) :
      Goes store call operation move stage (after, .finished result)
  /-- It is served, and ends. -/
  | serves {after : Store} {outcome : Outcome} (same : after.connections = store.connections)
      (client : ClientId) (request : Request) (mapping : stage = .asking client request .map)
      (resource : ApiResource) (answered : move = .answer call (.resource (.ok resource)))
      (key : Key) (verb : Verb) (need : operation.need? = some (key, verb))
      (journal : after.journal = (store.serve key resource).1.journal) :
      Goes store call operation move stage (after, .finished (.ok outcome))
  /-- It changes the connections, and ends. -/
  | swaps {after : Store} (client : ClientId) (isChange : operation = .changeClient client)
      (entering : stage = .arriving) (gate : Gate)
      (changed : after = { store.changeClient client with gate }) :
      Goes store call operation move stage (after, .finished (.ok .done))

/-- Two stores use the same connections and have the same journal. -/
structure Agrees (store worked : Store) : Prop where
  connections : worked.connections = store.connections
  journal : worked.journal = store.journal

theorem Agrees.refl (store : Store) : store.Agrees store := ⟨rfl, rfl⟩

theorem Agrees.client {store worked : Store} (agrees : store.Agrees worked) :
    worked.client = store.client := congrArg Connections.client agrees.connections

theorem Agrees.access {store worked : Store} (agrees : store.Agrees worked) :
    worked.access.client = store.access.client := congrArg Connections.access agrees.connections

/-! ## Steps -/

/-- Serving a key opens a watch on the connection of the informers, or notes nothing. -/
theorem journal_serve (store : Store) (key : Key) (resource : ApiResource) :
    (store.serve key resource).1.journal = store.journal ∨
      (store.serve key resource).1.journal =
        .sent store.informers.client (.watch resource store.informers.ns) :: store.journal := by
  have noted : (store.serve key resource).1.journal =
      (store.obtainInformer resource).1.journal := by
    simp only [serve, noteUse]
    split <;> split <;> rfl
  rw [noted]
  unfold obtainInformer Informers.obtain
  cases store.informers.reusable? resource with
  | some id => exact Or.inl rfl
  | none => exact Or.inr rfl

theorem connections_serve (store : Store) (key : Key) (resource : ApiResource) :
    (store.serve key resource).1.connections = store.connections := by
  have noted : (store.serve key resource).1.connections =
      (store.obtainInformer resource).1.connections := by
    simp only [serve, noteUse]
    split <;> split <;> rfl
  rw [noted]
  unfold obtainInformer Informers.obtain
  cases store.informers.reusable? resource <;> rfl

section Steps

variable {store worked : Store} (call : CallId) {operation : Operation} {move : Move}
  {stage : Stage}

theorem goes_finish (agrees : store.Agrees worked) {result : Except Error Outcome}
    (unserved : ∀ outcome, result = .ok outcome → outcome.isServed = false) :
    Goes store call operation move stage (worked.finish call operation result) := by
  obtain ⟨ran, callbacks, ending, same, ends, isRan⟩ := finish_eq worked call operation result
  rw [same]
  refine .ends ?_ ending ?_ ran ?_ isRan
  · exact agrees.connections
  · exact fun outcome returned => unserved outcome (ends outcome returned)
  · exact congrArg (ran ++ ·) agrees.journal

theorem goes_done (agrees : store.Agrees worked) :
    Goes store call operation move stage (worked.finish call operation (.ok .done)) :=
  goes_finish call agrees fun outcome returned => by cases returned; rfl

theorem goes_fail (agrees : store.Agrees worked) (error : Error) :
    Goes store call operation move stage (worked.fail call operation error) :=
  goes_finish call agrees fun _ returned => nomatch returned

theorem goes_ask {client : ClientId} {request : Request} {purpose : Purpose}
    (agrees : store.Agrees worked)
    (asks : Asks store call operation move stage client request purpose) :
    Goes store call operation move stage (worked.ask client request purpose) :=
  .asks agrees.connections asks (congrArg (Entry.sent client request :: ·) agrees.journal)

theorem goes_askMapping (agrees : store.Agrees worked) {key : Key} {verb : Verb}
    (need : operation.need? = some (key, verb)) (named : operation.IsNamed) :
    Goes store call operation move stage (worked.askMapping key) := by
  unfold askMapping
  rw [agrees.client]
  exact goes_ask call agrees (.maps stage key verb need named)

theorem goes_askNamedMapping (agrees : store.Agrees worked) {key : Key} {verb : Verb}
    (need : operation.need? = some (key, verb))
    (named : ∀ name, key.name? = some name → operation.IsNamed) :
    Goes store call operation move stage (worked.askNamedMapping call operation key) := by
  unfold askNamedMapping
  split
  · rename_i name required
    exact goes_askMapping call agrees need (named name (Key.name?_of_requireName required))
  · exact goes_fail call agrees _

theorem goes_decided (agrees : store.Agrees worked) (access : AccessKey) (allowed : Bool) :
    Goes store call operation move stage (worked.decided call operation access allowed) := by
  unfold decided
  split
  · exact goes_fail call agrees _
  · cases operation with
    | list key => exact goes_askMapping call agrees rfl trivial
    | watch key listener type => exact goes_askMapping call agrees rfl trivial
    | get key => exact goes_askNamedMapping call agrees rfl fun name named => ⟨name, named⟩
    | delete key => exact goes_askNamedMapping call agrees rfl fun name named => ⟨name, named⟩
    | update key change =>
        exact goes_askNamedMapping call agrees rfl fun name named => ⟨name, named⟩
    | _ => exact goes_done call agrees

theorem goes_atLock (agrees : store.Agrees worked) (access : AccessKey) (flight : FlightId) :
    Goes store call operation move stage (worked.atLock call operation access flight) := by
  unfold atLock
  split
  · exact .queues agrees.connections access flight agrees.journal
  · split
    · have left : store.Agrees
          { worked with access.flights := worked.access.flights.leave flight call } :=
        ⟨agrees.connections, agrees.journal⟩
      exact goes_decided call left access _
    · rw [agrees.access]
      exact goes_ask call agrees (.reviews stage access flight)

theorem goes_located (store : Store) (access : AccessKey) :
    Goes store call operation move stage (store.located call operation access) := by
  unfold located
  split
  · exact goes_decided call (Agrees.refl store) access _
  · have joined : store.Agrees
        { store with access.flights := (store.access.flights.join access call).1 } :=
      ⟨rfl, rfl⟩
    exact goes_atLock call joined access _

theorem goes_reviewed (store : Store) (access : AccessKey) (flight : FlightId)
    (result : Except Error Bool) :
    Goes store call operation move stage (store.reviewed call operation access flight result) := by
  cases result with
  | ok allowed =>
      have decides : store.Agrees
          { store with
            access.decisions := store.access.decisions.insert access allowed
            access.flights := (store.access.flights.strike access flight).leave flight call } :=
        ⟨rfl, rfl⟩
      exact goes_decided call decides access allowed
  | error error =>
      have released : store.Agrees
          { store with
            access.flights := (store.access.flights.strike access flight).leave flight call } :=
        ⟨rfl, rfl⟩
      exact goes_fail call released _

/-- Ending after being served. -/
theorem goes_served {key : Key} {verb : Verb} {resource : ApiResource} {outcome : Outcome}
    (client : ClientId) (request : Request)
    (answered : move = .answer call (.resource (.ok resource)))
    (same : worked.connections = store.connections)
    (journal : worked.journal = (store.serve key resource).1.journal)
    (need : operation.need? = some (key, verb)) (reads : operation.isWrite = false) :
    Goes store call operation move (.asking client request .map)
      (worked.finish call operation (.ok outcome)) := by
  have ended : worked.finish call operation (.ok outcome) =
      ({ worked with gate := worked.gate.leave call }, .finished (.ok outcome)) := by
    simp only [finish, reads]
    rfl
  rw [ended]
  exact .serves same client request rfl resource answered key verb need journal

theorem goes_mapped (store : Store) (client : ClientId) (request : Request)
    (resource : ApiResource) (answered : move = .answer call (.resource (.ok resource))) :
    Goes store call operation move (.asking client request .map)
      (store.mapped call operation resource) := by
  cases operation with
  | list key | get key | watch key listener type =>
      have same := connections_serve store key resource
      exact goes_served call client request answered same rfl rfl rfl
  | delete key =>
      exact goes_ask call (Agrees.refl store) (.deletes client request resource key rfl)
  | update key change =>
      exact goes_ask call (Agrees.refl store) (.reads client request resource key change rfl)
  | _ => exact goes_done call (Agrees.refl store)

theorem goes_changed (store : Store) (client : ClientId) (request : Request)
    (resource : ApiResource) (object : Option Object)
    (answered : move = .answer call (.object (.ok object))) :
    Goes store call operation move (.asking client request (.read resource))
      (store.changed call operation client resource object) := by
  unfold changed
  split
  · rename_i key change
    split
    · exact goes_fail call (Agrees.refl store) _
    · rename_i found
      split
      · exact goes_fail call (Agrees.refl store) _
      · rename_i written changes
        exact goes_ask call (Agrees.refl store)
          (.replaces client request resource key change rfl found written answered changes)
  · exact goes_done call (Agrees.refl store)

/-- Entering the gate, whatever it looks like by now. -/
theorem goes_enter (store : Store) (operation : Operation) (gate : Gate) :
    Goes store call operation move .arriving ({ store with gate }.enter call operation) := by
  have agrees : store.Agrees { store with gate } := ⟨rfl, rfl⟩
  have locating : ∀ {key verb}, operation.demand? = some (key, verb) →
      Goes store call operation move .arriving
        ({ store with gate }.locate call operation key) := by
    intro key verb demand
    unfold locate
    split
    · exact goes_fail call agrees _
    · exact goes_ask call agrees (.locates key verb demand)
  cases operation with
  | unwatch kinds =>
      cases kinds with
      | nil => exact goes_done call agrees
      | cons kind rest => exact goes_ask call agrees (.forgets kind rest rfl)
  | isLoading key =>
      unfold enter
      refine goes_finish call agrees ?_
      intro outcome returned
      cases returned
      rfl
  | reset =>
      have reset : store.Agrees { store with gate }.reset := ⟨rfl, rfl⟩
      exact goes_done call reset
  | changeClient client => exact .swaps client rfl rfl _ rfl
  | _ => exact locating rfl

theorem goes_begin (store : Store) (operation : Operation) :
    Goes store call operation move .arriving (store.begin call operation) := by
  unfold begin
  split
  · exact goes_enter call store operation store.gate
  · simp only
    split
    · exact goes_enter call store operation _
    · exact .stays rfl rfl

theorem goes_answered (store : Store) (client : ClientId) (request : Request) (purpose : Purpose)
    (answer : Answer) (answered : move = .answer call answer) :
    Goes store call operation move (.asking client request purpose)
      (store.answered call operation client request purpose answer) := by
  unfold Store.answered
  split
  · split
    · exact goes_located call store _
    · exact goes_done call (Agrees.refl store)
    · exact goes_fail call (Agrees.refl store) _
  · exact goes_reviewed call store _ _ _
  · split
    · exact goes_mapped call store client request _ answered
    · exact goes_fail call (Agrees.refl store) _
  · rename_i last rest result
    have next : ∀ {worked : Store}, store.Agrees worked →
        Goes store call operation move (.asking client request (.forget last rest))
          (worked.unwatchNext call operation client rest) := by
      intro worked agrees
      cases rest with
      | nil => exact goes_done call agrees
      | cons kind rest => exact goes_ask call agrees (.forgetsNext client request last kind rest)
    split
    · exact next ⟨rfl, rfl⟩
    · exact next (Agrees.refl store)
  · split
    · exact goes_changed call store client request _ _ answered
    · exact goes_fail call (Agrees.refl store) _
  · split
    · exact goes_done call (Agrees.refl store)
    · exact goes_fail call (Agrees.refl store) _
  · exact .stays rfl rfl

theorem agrees_giveUp (store : Store) (stage : Stage) :
    store.Agrees (store.giveUp call stage) := by
  unfold giveUp
  split <;> exact ⟨rfl, rfl⟩

end Steps

end Store

theorem Call.goes_next (store : Store) (call : CallId) (current : Call) (move : Move)
    (own : ∀ other answer, move = .answer other answer → other = call) :
    Store.Goes store call current.operation move current.stage (current.next store call move) := by
  obtain ⟨operation, stage⟩ := current
  cases move with
  | enter other =>
      cases stage with
      | arriving =>
          simp only [Call.next]
          split
          · exact Store.goes_enter call store operation store.gate
          · exact .stays rfl rfl
      | _ => exact .stays rfl rfl
  | takeLock other =>
      cases stage with
      | queuing access flight =>
          exact Store.goes_atLock call (Store.Agrees.refl store) access flight
      | _ => exact .stays rfl rfl
  | answer other answer =>
      cases stage with
      | asking client request purpose =>
          rw [own other answer rfl]
          exact Store.goes_answered call store client request purpose answer rfl
      | _ => exact .stays rfl rfl
  | giveUp other =>
      simp only [Call.next]
      split
      · have agrees := Store.agrees_giveUp call store stage
        exact .drops agrees.connections agrees.journal
      · exact .stays rfl rfl
  | _ => exact .stays rfl rfl

end ClusterCache
