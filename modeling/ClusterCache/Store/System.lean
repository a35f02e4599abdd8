import ClusterCache.Store.Call

/-!
# Runs of the store

A system is a store with all calls ever begun. It moves in steps: a call begins or goes on, the
cluster answers, a watch stream brings an item, a watch loop takes one, a waiter looks at its
informer. The moves may come in any order; one that is not possible changes nothing. So whatever
holds after every sequence of moves holds for every way in which the calls, the loops and the
waiters may be interleaved.
-/

namespace ClusterCache

structure Call where
  operation : Operation
  stage : Stage

/-- A store and the calls on it, by number. -/
structure System where
  store : Store
  calls : List Call

/-- A step of a system. The last five come from outside: whoever owns the store makes them without
a call. -/
inductive Move
  | begin (operation : Operation)
  | enter (call : CallId)
  | takeLock (call : CallId)
  | answer (call : CallId) (answer : Answer)
  | giveUp (call : CallId)
  | send (informer : InformerId) (item : StreamItem)
  | endStream (informer : InformerId)
  | turn (informer : InformerId)
  | wake (waiter : Nat)
  | shutdown
  | onUpdate (callback : Callback)
  | presetDecision (access : AccessKey) (allowed : Bool)
  | forgetDecisions
  | changeAccessClient (client : ClientId)

namespace System

def start (config : StoreConfig) (client : ClientId) : System := ⟨.start config client, []⟩

def stage? (system : System) (call : CallId) : Option Stage :=
  system.calls[call]?.map Call.stage

def proceed (system : System) (call : CallId) (step : Store → Operation → Stage → Store × Stage) :
    System :=
  match system.calls[call]? with
  | none => system
  | some current =>
      let next := step system.store current.operation current.stage
      ⟨next.1, system.calls.set call ⟨current.operation, next.2⟩⟩

def modify (system : System) (change : Store → Store) : System :=
  { system with store := change system.store }

def apply (system : System) : Move → System
  | .begin operation =>
      let begun := system.store.begin system.calls.length operation
      ⟨begun.1, system.calls ++ [⟨operation, begun.2⟩]⟩
  | .enter call =>
      system.proceed call fun store operation stage =>
        match stage with
        | .arriving =>
            if store.gate.isInside call then store.enter call operation else (store, stage)
        | _ => (store, stage)
  | .takeLock call =>
      system.proceed call fun store operation stage =>
        match stage with
        | .queuing access flight => store.atLock call operation access flight
        | _ => (store, stage)
  | .answer call answer =>
      system.proceed call fun store operation stage =>
        match stage with
        | .asking client request purpose =>
            store.answered call operation client request purpose answer
        | _ => (store, stage)
  | .giveUp call =>
      system.proceed call fun store _ stage =>
        if stage.isPending then (store.giveUp call stage, .dropped) else (store, stage)
  | .send informer item =>
      system.modify fun store =>
        { store with informers := store.informers.modify informer (·.send item) }
  | .endStream informer =>
      system.modify fun store =>
        { store with informers := store.informers.modify informer (·.endStream) }
  | .turn informer => system.modify (Store.surroundings informer).turn
  | .wake waiter =>
      system.modify fun store =>
        match store.waiters.find? fun entry => entry.id = waiter with
        | some entry => store.wake entry
        | none => store
  | .shutdown => system.modify Store.shutdown
  | .onUpdate callback => system.modify (·.onUpdate callback)
  | .presetDecision access allowed => system.modify (·.presetDecision access allowed)
  | .forgetDecisions => system.modify Store.forgetDecisions
  | .changeAccessClient client => system.modify (·.changeAccessClient client)

def run (system : System) (moves : List Move) : System := moves.foldl apply system

@[simp] theorem run_nil (system : System) : system.run [] = system := rfl

@[simp] theorem run_cons (system : System) (move : Move) (moves : List Move) :
    system.run (move :: moves) = (system.apply move).run moves := rfl

end System

end ClusterCache
