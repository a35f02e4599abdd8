import ClusterCache.Alert
import ClusterCache.Flights
import ClusterCache.Scopes
import ClusterCache.Store.Listener
import ClusterCache.Store.Request

/-!
# The store

The store serves objects from the replicas of its informers. It keeps the decisions about access,
which scopes are loading, which kinds are in use, the registrations of listeners, the callbacks that
run after a write, and the waiters that note when a scope has been loaded. What the store sends and
whom it tells goes into its journal.
-/

namespace ClusterCache

/-! ## Parts -/

structure StoreConfig where
  /-- The namespace that watches are restricted to; all if there is none. -/
  ns : Option String
  /-- How long a command waits for the first lists, in seconds. -/
  syncTimeout : Nat
  diagnostics : Bool
deriving DecidableEq, Repr, Inhabited

def StoreConfig.standard : StoreConfig := ⟨none, 30, true⟩

/-- Asking for access: the connection that decides, what it decided, and the reviews in flight. -/
structure AccessGate where
  client : ClientId
  decisions : Decisions
  flights : Flights
deriving Repr, Inhabited

/-- A task that waits for an informer to have its first list, to note that a scope is loaded. -/
structure Waiter where
  id : Nat
  scope : Key
  informer : InformerId
deriving DecidableEq, Repr

structure Registration where
  label : String
  type : ResourceType
  id : WatchId
deriving DecidableEq, Repr

inductive Entry
  | sent (client : ClientId) (request : Request)
  | told (label : String) (change : Change)
  | ran (label : String)
  | alerted (alert : Alert)
deriving Repr

structure Store where
  config : StoreConfig
  client : ClientId
  gate : Gate
  access : AccessGate
  informers : Informers Listener
  loading : Loading
  usage : Usage
  callbacks : List Callback
  stopped : Bool
  waiters : List Waiter
  waitersStarted : Nat
  /-- The registrations, the latest first. -/
  registrations : List Registration
  /-- What happened, the latest first. -/
  journal : List Entry
deriving Repr

namespace Store

def start (config : StoreConfig) (client : ClientId) : Store where
  config
  client
  gate := Gate.empty
  access := ⟨client, Table.empty, Flights.empty⟩
  informers := Informers.empty client config.ns
  loading := Loading.empty
  usage := Usage.empty
  callbacks := []
  stopped := false
  waiters := []
  waitersStarted := 0
  registrations := []
  journal := []

instance : Inhabited Store := ⟨start default 0⟩

def enterJournal (store : Store) (entry : Entry) : Store :=
  { store with journal := entry :: store.journal }

/-! ## Access -/

def presetDecision (store : Store) (access : AccessKey) (allowed : Bool) : Store :=
  { store with access.decisions := store.access.decisions.insert access allowed }

def forgetDecisions (store : Store) : Store := { store with access.decisions := Table.empty }

def changeAccessClient (store : Store) (client : ClientId) : Store :=
  { store with access.client := client }

/-! ## Listeners -/

def subscribe (store : Store) (informer : InformerId) (type : ResourceType) (key : Key)
    (listener : Listener) : Store × WatchId :=
  let subscribed := (store.informers.informer informer).handlers.subscribe key listener
  ({ store with
      informers := store.informers.modify informer fun informer =>
        { informer with handlers := subscribed.1 }
      registrations := ⟨listener.label, type, subscribed.2⟩ :: store.registrations },
    subscribed.2)

/-- Removes the latest registration under a label from the informer that is current for its type.
Also returns whether it was there; nothing if there is no such label or informer. -/
def unsubscribe (store : Store) (label : String) : Store × Option Bool :=
  match store.registrations.find? fun registration => registration.label = label with
  | none => (store, none)
  | some registration =>
      match store.informers.find? registration.type with
      | none => (store, none)
      | some id =>
          let removed := (store.informers.informer id).handlers.unsubscribe registration.id
          ({ store with
              informers := store.informers.modify id fun informer =>
                { informer with handlers := removed.1 } },
            some removed.2)

/-! ## Informers -/

def obtainInformer (store : Store) (resource : ApiResource) : Store × InformerId × Bool :=
  let obtained := store.informers.obtain resource
  let store := { store with informers := obtained.1 }
  (if obtained.2.2 then
      store.enterJournal (.sent store.informers.client (.watch resource store.informers.ns))
    else store,
    obtained.2)

def stopInformer (store : Store) (type : ResourceType) : Store × Bool :=
  let stopped := store.informers.stop type
  ({ store with informers := stopped.1 }, stopped.2)

def startWaiter (store : Store) (scope : Key) (informer : InformerId) : Store :=
  { store with
    waiters := store.waiters ++ [⟨store.waitersStarted, scope, informer⟩]
    waitersStarted := store.waitersStarted + 1 }

/-- Notes that a key is about to be served by an informer: its kind is in use, and its scope is
loading until the informer has its first list. One waiter at a time does for a scope. -/
def noteUse (store : Store) (key : Key) (informer : InformerId) : Store :=
  let kind := key.groupVersionKind
  let store :=
    if store.usage.isUsed key.ns kind then store
    else { store with usage := store.usage.record key.ns kind true }
  if !(store.informers.informer informer).replica.synced && store.loading.isLoaded key.scope then
    { store with loading := store.loading.record key.scope false }.startWaiter key.scope informer
  else store

def serve (store : Store) (key : Key) (resource : ApiResource) : Store × InformerId :=
  let obtained := store.obtainInformer resource
  (obtained.1.noteUse key obtained.2.1, obtained.2.1)

def forgetKind (store : Store) (kind : GroupVersionKind) (resource : ApiResource) : Store :=
  let store := (store.stopInformer (ResourceType.ofResource resource)).1
  { store with
    usage := store.usage.forgetKind kind
    loading := store.loading.forgetKind kind.apiVersion kind.kind }

/-- A waiter looks at its informer. It is done as soon as there is a verdict; the scope is noted as
loaded unless the informer was stopped. -/
def wake (store : Store) (waiter : Waiter) : Store :=
  let informer := store.informers.informer waiter.informer
  let stale := store.informers.isStopped waiter.informer
  match informer.syncVerdict? stale store.stopped with
  | none => store
  | some synced =>
      { store with
        waiters := store.waiters.filter fun other => other.id ≠ waiter.id
        loading := if synced then (store.loading.confirm waiter.scope stale).1 else store.loading }

/-! ## The whole store -/

def reset (store : Store) : Store :=
  { store with
    informers := store.informers.stopAll.1
    access.decisions := Table.empty
    loading := Loading.empty
    usage := Usage.empty }

/-- Uses another connection from now on. What is cached stays. -/
def changeClient (store : Store) (client : ClientId) : Store :=
  { store with
    client
    access.client := client
    informers := store.informers.changeClient client }

def shutdown (store : Store) : Store :=
  { store with stopped := true, informers := store.informers.shutdown }

def onUpdate (store : Store) (callback : Callback) : Store :=
  { store with callbacks := store.callbacks ++ [callback] }

/-- Runs the callbacks that are registered now, in order. -/
def runCallbacks (store : Store) : Store :=
  store.callbacks.foldl
    (fun store callback =>
      { store.enterJournal (.ran callback.label) with
        callbacks := store.callbacks ++ callback.registers })
    store

def statusLine (store : Store) : String :=
  let types := store.informers.types
  "dynamic cache status: " ++ toString types.length ++ " informers ["
    ++ ", ".intercalate (types.map ResourceType.text) ++ "]"

/-! ## Watch loops -/

def react (store : Store) (own : String) : Reaction → Store
  | .shutdown => store.shutdown
  | .stop type => (store.stopInformer type).1
  | .unsubscribe label => (store.unsubscribe (label.getD own)).1
  | .subscribe type label key =>
      match store.informers.find? type with
      | some informer => (store.subscribe informer type key ⟨label, []⟩).1
      | none => store

def tell (subscription : Subscription Listener) (change : Change) (store : Store) : Store :=
  let listener := subscription.handler
  (listener.reactions.filter fun reaction => reaction.1.fires change).foldl
    (fun store reaction => store.react listener.label reaction.2)
    (store.enterJournal (.told listener.label change))

def surroundings (id : InformerId) : Surroundings Store Listener where
  informer store := store.informers.informer id
  replace informer store := { store with informers := store.informers.modify id fun _ => informer }
  isCancelled store := store.informers.isStopped id
  call := tell

end Store

end ClusterCache
