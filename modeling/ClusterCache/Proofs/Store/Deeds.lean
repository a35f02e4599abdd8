import ClusterCache.Store.System

/-!
# What the steps of calls do

Most of what a call does concerns its own progress: it passes the gate, waits at locks, asks the
cluster. What the store holds changes only by a few deeds, each done in a single step of a call:
serving a key, registering a listener, forgetting a kind, resetting, changing the connection. For
every step the lemmas below say which deed it does.
-/

namespace ClusterCache

/-- What the store holds, apart from the calls under way, the decisions and the journal. -/
structure Holdings where
  informers : Informers Listener
  loading : Loading
  usage : Usage
  stopped : Bool
  waiters : List Waiter
  waitersStarted : Nat
  registrations : List Registration

/-- A change of what the store holds. -/
inductive Deed
  | nothing
  | serve (key : Key) (resource : ApiResource)
  | watch (key : Key) (resource : ApiResource) (listener : Listener) (type : ResourceType)
  | forget (kind : GroupVersionKind) (resource : ApiResource)
  | reset
  | changeClient (client : ClientId)

namespace Store

def holdings (store : Store) : Holdings where
  informers := store.informers
  loading := store.loading
  usage := store.usage
  stopped := store.stopped
  waiters := store.waiters
  waitersStarted := store.waitersStarted
  registrations := store.registrations

def perform (store : Store) : Deed → Store
  | .nothing => store
  | .serve key resource => (store.serve key resource).1
  | .watch key resource listener type =>
      ((store.serve key resource).1.subscribe (store.serve key resource).2 type key listener).1
  | .forget kind resource => store.forgetKind kind resource
  | .reset => store.reset
  | .changeClient client => store.changeClient client

end Store

/-- What an operation does when it enters the gate. -/
def Operation.entryDeed : Operation → Deed
  | .reset => .reset
  | .changeClient client => .changeClient client
  | _ => .nothing

/-- What an operation does when it knows the resource it works on. -/
def Operation.mappedDeed (resource : ApiResource) : Operation → Deed
  | .list key | .get key => .serve key resource
  | .watch key listener type => .watch key resource listener type
  | _ => .nothing

/-- What an operation does when it gets an answer. -/
def Operation.answerDeed (operation : Operation) : Purpose → Answer → Deed
  | .map, .resource (.ok resource) => operation.mappedDeed resource
  | .forget kind _, .resource (.ok resource) => .forget kind resource
  | _, _ => .nothing

namespace Store

/-! ## How a call ends -/

/-- The callbacks that are registered run once, in order. What they register meanwhile does not. -/
theorem runCallbacks_eq (store : Store) :
    store.runCallbacks =
      { store with
        journal := (store.callbacks.map fun callback => Entry.ran callback.label).reverse ++
          store.journal
        callbacks := store.callbacks ++ store.callbacks.flatMap Callback.registers } := by
  suffices general : ∀ (callbacks : List Callback) (start : Store),
      callbacks.foldl
        (fun (store : Store) callback =>
          { store.enterJournal (.ran callback.label) with
            callbacks := store.callbacks ++ callback.registers })
        start =
      { start with
        journal := (callbacks.map fun callback => Entry.ran callback.label).reverse ++
          start.journal
        callbacks := start.callbacks ++ callbacks.flatMap Callback.registers }
    from general store.callbacks store
  intro callbacks
  induction callbacks with
  | nil =>
      intro start
      simp
  | cons callback rest inductionHypothesis =>
      intro start
      rw [List.foldl_cons, inductionHypothesis]
      simp [enterJournal]

/-- A write that succeeds leaves the gate, and then runs the callbacks. -/
theorem finish_of_isWrite (store : Store) (call : CallId) {operation : Operation}
    (isWrite : operation.isWrite = true) (outcome : Outcome) :
    store.finish call operation (.ok outcome) =
      ({ store with
          gate := store.gate.leave call
          journal := (store.callbacks.map fun callback => Entry.ran callback.label).reverse ++
            store.journal
          callbacks := store.callbacks ++ store.callbacks.flatMap Callback.registers },
        .finished (.ok outcome)) := by
  simp only [finish, isWrite, if_true, runCallbacks_eq]

/-- Ending leaves the gate, and may run callbacks. -/
theorem finish_eq (store : Store) (call : CallId) (operation : Operation)
    (result : Except Error Outcome) :
    ∃ ran callbacks ending,
      store.finish call operation result =
        ({ store with
            gate := store.gate.leave call
            journal := ran ++ store.journal
            callbacks }, .finished ending) ∧
        (∀ outcome, ending = .ok outcome → result = .ok outcome) ∧
        ∀ entry ∈ ran, ∃ label, entry = .ran label := by
  have nothing : ∀ entry ∈ ([] : List Entry), ∃ label, entry = .ran label :=
    fun _ member => absurd member List.not_mem_nil
  cases result with
  | error error =>
      refine ⟨[], store.callbacks, .error (operation.frame error), rfl, ?_, nothing⟩
      intro outcome same
      cases same
  | ok outcome =>
      by_cases isWrite : operation.isWrite = true
      · refine ⟨_, _, .ok outcome, finish_of_isWrite store call isWrite outcome, fun _ => id, ?_⟩
        intro entry member
        obtain ⟨callback, _, isRan⟩ := List.mem_map.1 (List.mem_reverse.1 member)
        exact ⟨callback.label, isRan.symm⟩
      · refine ⟨[], store.callbacks, .ok outcome, ?_, fun _ => id, nothing⟩
        simp only [finish, isWrite]
        rfl

/-! ## Steps that change nothing that is held -/

@[simp] theorem holdings_ask (store : Store) (client : ClientId) (request : Request)
    (purpose : Purpose) : (store.ask client request purpose).1.holdings = store.holdings := rfl

@[simp] theorem holdings_finish (store : Store) (call : CallId) (operation : Operation)
    (result : Except Error Outcome) :
    (store.finish call operation result).1.holdings = store.holdings := by
  obtain ⟨ran, callbacks, ending, same, _⟩ := finish_eq store call operation result
  rw [same]
  rfl

@[simp] theorem holdings_fail (store : Store) (call : CallId) (operation : Operation)
    (error : Error) : (store.fail call operation error).1.holdings = store.holdings :=
  holdings_finish store call operation _

@[simp] theorem holdings_askMapping (store : Store) (key : Key) :
    (store.askMapping key).1.holdings = store.holdings := rfl

@[simp] theorem holdings_askNamedMapping (store : Store) (call : CallId)
    (operation : Operation) (key : Key) :
    (store.askNamedMapping call operation key).1.holdings = store.holdings := by
  unfold askNamedMapping
  split <;> simp

@[simp] theorem holdings_decided (store : Store) (call : CallId) (operation : Operation)
    (access : AccessKey) (allowed : Bool) :
    (store.decided call operation access allowed).1.holdings = store.holdings := by
  unfold decided
  split
  · simp
  · cases operation <;> simp

@[simp] theorem holdings_atLock (store : Store) (call : CallId) (operation : Operation)
    (access : AccessKey) (flight : FlightId) :
    (store.atLock call operation access flight).1.holdings = store.holdings := by
  unfold atLock
  split
  · rfl
  · split
    · rw [holdings_decided]
      rfl
    · rfl

@[simp] theorem holdings_located (store : Store) (call : CallId) (operation : Operation)
    (access : AccessKey) :
    (store.located call operation access).1.holdings = store.holdings := by
  unfold located
  split
  · simp
  · rw [holdings_atLock]
    rfl

@[simp] theorem holdings_reviewed (store : Store) (call : CallId) (operation : Operation)
    (access : AccessKey) (flight : FlightId) (result : Except Error Bool) :
    (store.reviewed call operation access flight result).1.holdings = store.holdings := by
  cases result with
  | ok allowed =>
      simp only [reviewed, holdings_decided]
      rfl
  | error error =>
      simp only [reviewed, holdings_fail]
      rfl

@[simp] theorem holdings_changed (store : Store) (call : CallId) (operation : Operation)
    (client : ClientId) (resource : ApiResource) (object : Option Object) :
    (store.changed call operation client resource object).1.holdings = store.holdings := by
  unfold changed
  split
  · split
    · simp
    · split <;> simp
  · simp

@[simp] theorem holdings_unwatchNext (store : Store) (call : CallId) (operation : Operation)
    (client : ClientId) (kinds : List GroupVersionKind) :
    (store.unwatchNext call operation client kinds).1.holdings = store.holdings := by
  cases kinds <;> simp [unwatchNext]

@[simp] theorem holdings_locate (store : Store) (call : CallId) (operation : Operation)
    (key : Key) : (store.locate call operation key).1.holdings = store.holdings := by
  unfold locate
  split <;> simp

@[simp] theorem holdings_giveUp (store : Store) (call : CallId) (stage : Stage) :
    (store.giveUp call stage).holdings = store.holdings := by
  unfold giveUp
  split <;> rfl

/-! ## Steps that do a deed -/

theorem holdings_mapped (store : Store) (call : CallId) (operation : Operation)
    (resource : ApiResource) :
    (store.mapped call operation resource).1.holdings =
      (store.perform (operation.mappedDeed resource)).holdings := by
  cases operation <;> simp [mapped, Operation.mappedDeed, perform]

theorem holdings_answered (store : Store) (call : CallId) (operation : Operation)
    (client : ClientId) (request : Request) (purpose : Purpose) (answer : Answer) :
    (store.answered call operation client request purpose answer).1.holdings =
      (store.perform (operation.answerDeed purpose answer)).holdings := by
  unfold answered
  split
  · split <;> simp [Operation.answerDeed, perform]
  · simp [Operation.answerDeed, perform]
  · split
    · exact holdings_mapped store call operation _
    · simp [Operation.answerDeed, perform]
  · split <;> simp [Operation.answerDeed, perform]
  · split <;> simp [Operation.answerDeed, perform]
  · split <;> simp [Operation.answerDeed, perform]
  · -- An answer that does not fit the question does nothing.
    cases purpose <;> cases answer <;> first | rfl | simp_all

theorem holdings_enter (store : Store) (call : CallId) (operation : Operation) :
    (store.enter call operation).1.holdings =
      (store.perform operation.entryDeed).holdings := by
  cases operation <;>
    simp [enter, Operation.demand?, Operation.entryDeed, perform]

end Store

/-! ## Moves of calls -/

/-- What a call does by its first step. -/
def Operation.beginDeed (store : Store) (call : CallId) (operation : Operation) : Deed :=
  match operation.passage? with
  | none => operation.entryDeed
  | some passage =>
      if (store.gate.arrive call passage).isInside call then operation.entryDeed else .nothing

theorem Store.holdings_begin (store : Store) (call : CallId) (operation : Operation) :
    (store.begin call operation).1.holdings =
      (store.perform (operation.beginDeed store call)).holdings := by
  unfold Store.begin Operation.beginDeed
  cases operation.passage? with
  | none => exact holdings_enter store call operation
  | some passage =>
      by_cases inside : (store.gate.arrive call passage).isInside call = true
      · simp only [inside, if_true]
        rw [holdings_enter]
        cases operation <;> rfl
      · simp only [inside]
        rfl

namespace Call

/-- How a call goes on by a move of its own, as far as the move is possible in its stage. -/
def next (store : Store) (call : CallId) (current : Call) : Move → Store × Stage
  | .enter _ =>
      match current.stage with
      | .arriving =>
          if store.gate.isInside call then store.enter call current.operation
          else (store, current.stage)
      | _ => (store, current.stage)
  | .takeLock _ =>
      match current.stage with
      | .queuing access flight => store.atLock call current.operation access flight
      | _ => (store, current.stage)
  | .answer _ answer =>
      match current.stage with
      | .asking client request purpose =>
          store.answered call current.operation client request purpose answer
      | _ => (store, current.stage)
  | .giveUp _ =>
      if current.stage.isPending then (store.giveUp call current.stage, .dropped)
      else (store, current.stage)
  | _ => (store, current.stage)

/-- What a call does by a move of its own. -/
def deed (store : Store) (call : CallId) (current : Call) : Move → Deed
  | .enter _ =>
      match current.stage with
      | .arriving =>
          if store.gate.isInside call then current.operation.entryDeed else .nothing
      | _ => .nothing
  | .answer _ answer =>
      match current.stage with
      | .asking _ _ purpose => current.operation.answerDeed purpose answer
      | _ => .nothing
  | _ => .nothing

theorem holdings_next (store : Store) (call : CallId) (current : Call) (move : Move) :
    (current.next store call move).1.holdings =
      (store.perform (current.deed store call move)).holdings := by
  obtain ⟨operation, stage⟩ := current
  cases move with
  | enter other =>
      cases stage with
      | arriving =>
          by_cases inside : store.gate.isInside call = true
          · simpa [next, deed, inside] using Store.holdings_enter store call operation
          · simp [next, deed, inside, Store.perform]
      | _ => rfl
  | takeLock other =>
      cases stage with
      | queuing access flight => exact Store.holdings_atLock store call operation access flight
      | _ => rfl
  | answer other answer =>
      cases stage with
      | asking client request purpose =>
          exact Store.holdings_answered store call operation client request purpose answer
      | _ => rfl
  | giveUp other =>
      by_cases pending : stage.isPending = true
      · simp [next, deed, pending, Store.perform]
      · simp [next, deed, pending, Store.perform]
  | _ => rfl

end Call

end ClusterCache
