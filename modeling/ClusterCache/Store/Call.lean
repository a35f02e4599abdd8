import ClusterCache.Store.State

/-!
# Calls

An operation on the store is carried out by a call. A call waits where it depends on others: for the
gate, at the lock of a review, and for the answer of the cluster. Between two such stages it goes on
by itself, and nothing else happens meanwhile.

Every operation on objects runs through the same stages, and each stage only after the one before
has succeeded: the gate, the access, the mapping of the kind to a resource, then the work itself.
An operation that fails leaves no trace but the decision that it asked for.
-/

namespace ClusterCache

/-! ## Operations -/

inductive Operation
  | list (key : Key)
  | get (key : Key)
  | watch (key : Key) (listener : Listener) (type : ResourceType)
  | delete (key : Key)
  | update (key : Key) (change : Object → Except Error Object)
  | unwatch (kinds : List GroupVersionKind)
  | isLoading (key : Key)
  | reset
  | changeClient (client : ClientId)
  /-- Asks for access, without passing the gate. -/
  | checkAccess (key : Key) (verb : String)

inductive Outcome
  | listed (objects : List Object) (loading : Bool)
  | found (object : Option Object)
  | watching (id : WatchId)
  | loading (loading : Bool)
  | done
deriving Repr

namespace Operation

/-- How the operation passes the gate, if it does. -/
def passage? : Operation → Option Passage
  | reset | changeClient _ => some .alone
  | checkAccess .. => none
  | _ => some .shared

def demand? : Operation → Option (Key × String)
  | list key => some (key, Verb.list.text)
  | get key => some (key, Verb.get.text)
  | watch key .. => some (key, Verb.watch.text)
  | delete key => some (key, Verb.delete.text)
  | update key _ => some (key, Verb.update.text)
  | checkAccess key verb => some (key, verb)
  | _ => none

def isWrite : Operation → Bool
  | delete _ | update .. => true
  | _ => false

/-- A denial is passed on as it is; any other error is put into the context of the operation. -/
def frame (operation : Operation) (error : Error) : Error :=
  match operation, operation.demand?, error with
  | checkAccess .., _, _ => error
  | _, _, .accessDenied _ => error
  | _, some (key, verb), _ => .context (verb ++ " " ++ key.text) error
  | _, none, _ => error

end Operation

def Key.requireName (key : Key) : Except Error String :=
  match key.name? with
  | some name => .ok name
  | none => .error (.custom (key.text ++ " does not name an object"))

/-! ## Stages -/

/-- What the answer of the cluster is for. -/
inductive Purpose
  /-- To know which resource needs access. -/
  | locate
  /-- To decide about access; the call holds the lock. -/
  | review (access : AccessKey) (flight : FlightId)
  /-- To know which resource to work on. -/
  | map
  /-- To stop watching a kind; further kinds remain. -/
  | forget (kind : GroupVersionKind) (rest : List GroupVersionKind)
  | read (resource : ApiResource)
  | write

inductive Stage
  | arriving
  | queuing (access : AccessKey) (flight : FlightId)
  | asking (client : ClientId) (request : Request) (purpose : Purpose)
  | finished (result : Except Error Outcome)
  | dropped

def Stage.result? : Stage → Option (Except Error Outcome)
  | .finished result => some result
  | _ => none

def Stage.isPending : Stage → Bool
  | .finished _ | .dropped => false
  | _ => true

namespace Store

/-! ## Going on -/

def ask (store : Store) (client : ClientId) (request : Request) (purpose : Purpose) :
    Store × Stage :=
  (store.enterJournal (.sent client request), .asking client request purpose)

/-- Ends a call. It leaves the gate; after a successful write the callbacks run. -/
def finish (store : Store) (call : CallId) (operation : Operation)
    (result : Except Error Outcome) : Store × Stage :=
  let store := { store with gate := store.gate.leave call }
  match result with
  | .ok outcome =>
      (if operation.isWrite then store.runCallbacks else store, .finished (.ok outcome))
  | .error error => (store, .finished (.error (operation.frame error)))

def fail (store : Store) (call : CallId) (operation : Operation) (error : Error) :
    Store × Stage := store.finish call operation (.error error)

def askMapping (store : Store) (key : Key) : Store × Stage :=
  store.ask store.client (.resource key.groupVersionKind) .map

def askNamedMapping (store : Store) (call : CallId) (operation : Operation) (key : Key) :
    Store × Stage :=
  match key.requireName with
  | .ok _ => store.askMapping key
  | .error error => store.fail call operation error

def decided (store : Store) (call : CallId) (operation : Operation) (access : AccessKey)
    (allowed : Bool) : Store × Stage :=
  if !allowed then store.fail call operation (.accessDenied access)
  else
    match operation with
    | .list key | .watch key .. => store.askMapping key
    | .get key | .delete key | .update key _ => store.askNamedMapping call operation key
    | _ => store.finish call operation (.ok .done)

/-- Goes on at the lock of a review. Its holder looks once more whether the decision has been made,
and asks for it if not. -/
def atLock (store : Store) (call : CallId) (operation : Operation) (access : AccessKey)
    (flight : FlightId) : Store × Stage :=
  if !store.access.flights.isHolder flight call then (store, .queuing access flight)
  else
    match store.access.decisions.get? access with
    | some allowed =>
        { store with access.flights := store.access.flights.leave flight call }.decided call
          operation access allowed
    | none => store.ask store.access.client (.review access) (.review access flight)

def located (store : Store) (call : CallId) (operation : Operation) (access : AccessKey) :
    Store × Stage :=
  match store.access.decisions.get? access with
  | some allowed => store.decided call operation access allowed
  | none =>
      let joined := store.access.flights.join access call
      { store with access.flights := joined.1 }.atLock call operation access joined.2

/-- Goes on after a review: the decision is remembered, the lock taken off the register and
released. A failed review decides nothing. -/
def reviewed (store : Store) (call : CallId) (operation : Operation) (access : AccessKey)
    (flight : FlightId) (result : Except Error Bool) : Store × Stage :=
  let flights := (store.access.flights.strike access flight).leave flight call
  match result with
  | .ok allowed =>
      { store with
        access.decisions := store.access.decisions.insert access allowed
        access.flights := flights }.decided call operation access allowed
  | .error error =>
      { store with access.flights := flights }.fail call operation (.fetch access error)

def mapped (store : Store) (call : CallId) (operation : Operation) (resource : ApiResource) :
    Store × Stage :=
  match operation with
  | .list key =>
      let served := store.serve key resource
      served.1.finish call operation
        (.ok (.listed ((served.1.informers.informer served.2).replica.list key)
          (!served.1.loading.isLoaded key.scope)))
  | .get key =>
      let served := store.serve key resource
      served.1.finish call operation
        (.ok (.found ((served.1.informers.informer served.2).replica.get? key.ns
          (key.name.getD ""))))
  | .watch key listener type =>
      let served := store.serve key resource
      let subscribed := served.1.subscribe served.2 type key listener
      subscribed.1.finish call operation (.ok (.watching subscribed.2))
  | .delete key =>
      store.ask store.client (.delete resource key.ns (key.name.getD "")) .write
  | .update key _ =>
      store.ask store.client (.get resource key.ns (key.name.getD "")) (.read resource)
  | _ => store.finish call operation (.ok .done)

/-- Goes on with the object that is to be changed, and writes it back to where it was read. -/
def changed (store : Store) (call : CallId) (operation : Operation) (client : ClientId)
    (resource : ApiResource) (object : Option Object) : Store × Stage :=
  match operation with
  | .update key change =>
      match object with
      | none => store.fail call operation (.notFound key.text)
      | some object =>
          match change object with
          | .error error => store.fail call operation error
          | .ok object => store.ask client (.replace resource object) .write
  | _ => store.finish call operation (.ok .done)

/-- Stops watching the kinds, one after the other, all on one connection. -/
def unwatchNext (store : Store) (call : CallId) (operation : Operation) (client : ClientId) :
    List GroupVersionKind → Store × Stage
  | [] => store.finish call operation (.ok .done)
  | kind :: rest => store.ask client (.resource kind) (.forget kind rest)

/-! ## The steps of a call -/

/-- Starts to ask for access. A key without a kind cannot be mapped to a resource. -/
def locate (store : Store) (call : CallId) (operation : Operation) (key : Key) : Store × Stage :=
  if key.kind.isEmpty then
    store.fail call operation
      (.mapping key.text "unable to check access for a key without a kind")
  else store.ask store.access.client (.resource key.groupVersionKind) .locate

def enter (store : Store) (call : CallId) (operation : Operation) : Store × Stage :=
  match operation.demand? with
  | some (key, _) => store.locate call operation key
  | none =>
      match operation with
      | .unwatch kinds => store.unwatchNext call operation store.client kinds
      | .isLoading key =>
          store.finish call operation (.ok (.loading (!store.loading.isLoaded key.scope)))
      | .reset => store.reset.finish call operation (.ok .done)
      | .changeClient client => (store.changeClient client).finish call operation (.ok .done)
      | _ => store.finish call operation (.ok .done)

def begin (store : Store) (call : CallId) (operation : Operation) : Store × Stage :=
  match operation.passage? with
  | none => store.enter call operation
  | some passage =>
      let gate := store.gate.arrive call passage
      let store := { store with gate }
      if gate.isInside call then store.enter call operation else (store, .arriving)

/-- Goes on with an answer. An answer that does not fit the question is ignored. -/
def answered (store : Store) (call : CallId) (operation : Operation) (client : ClientId)
    (request : Request) (purpose : Purpose) (answer : Answer) : Store × Stage :=
  match purpose, answer with
  | .locate, .resource result =>
      match result, operation.demand? with
      | .ok resource, some (key, verb) =>
          store.located call operation ⟨key.ns, resource.group, resource.plural, verb⟩
      | .ok _, none => store.finish call operation (.ok .done)
      | .error error, _ => store.fail call operation error
  | .review access flight, .review result => store.reviewed call operation access flight result
  | .map, .resource result =>
      match result with
      | .ok resource => store.mapped call operation resource
      | .error error => store.fail call operation error
  | .forget kind rest, .resource result =>
      match result with
      | .ok resource => (store.forgetKind kind resource).unwatchNext call operation client rest
      | .error _ => store.unwatchNext call operation client rest
  | .read resource, .object result =>
      match result with
      | .ok object => store.changed call operation client resource object
      | .error error => store.fail call operation error
  | .write, .written result =>
      match result with
      | .ok _ => store.finish call operation (.ok .done)
      | .error error => store.fail call operation error
  | _, _ => (store, .asking client request purpose)

/-- Gives a call up. It leaves the gate and the lock; the register of locks is left as it is. -/
def giveUp (store : Store) (call : CallId) : Stage → Store
  | .queuing _ flight | .asking _ _ (.review _ flight) =>
      { store with
        gate := store.gate.leave call
        access.flights := store.access.flights.leave flight call }
  | _ => { store with gate := store.gate.leave call }

end Store

end ClusterCache
