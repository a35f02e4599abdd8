import ClusterCache.Actions
import ClusterCache.Informers.Barrier
import ClusterCache.Rehearsal.Cluster
import ClusterCache.Rehearsal.Schedule
import ClusterCache.Store.System

/-!
# Scenes

A scene is a store over staged clusters, under a virtual clock. Its scripts are the operations of
the store and directions to the clusters; its jobs are the watch loops, the waiters and the alarms
of barriers.
-/

namespace ClusterCache

inductive AlarmState
  | raised
  | set
  | rung
  | silenced
  | away
deriving DecidableEq, Repr

/-- An alarm: once it is set it rings when its moment has come. -/
structure Alarm where
  due : Nat
  state : AlarmState
deriving DecidableEq, Repr

namespace Alarm

def isReady (alarm : Alarm) (now : Nat) : Bool :=
  match alarm.state with
  | .raised | .silenced => true
  | .set => alarm.due ≤ now
  | .rung | .away => false

def run (alarm : Alarm) (now : Nat) : Alarm :=
  match alarm.state with
  | .raised | .set => { alarm with state := if alarm.due ≤ now then .rung else .set }
  | .silenced => { alarm with state := .away }
  | _ => alarm

def silence (alarm : Alarm) : Alarm :=
  match alarm.state with
  | .raised | .set => { alarm with state := .silenced }
  | _ => alarm

end Alarm

/-- A barrier that somebody waits at. It is called off from the start, or when an alarm rings. -/
structure RaisedBarrier where
  barrier : Barrier
  alarm : Option Nat
deriving Repr

inductive SceneAction
  | delete
  | announce (fails : Option Error)
deriving Repr

structure Scene where
  system : System
  dropped : Bool
  clusters : List StagedCluster
  clock : Clock
  /-- How many loops had their first run. They have it in the order in which they were started. -/
  loopsBegun : Nat
  /-- How many waiters had their first run. They have it in the order in which they were started. -/
  waitersBegun : Nat
  answersDue : Table CallId Nat
  alarms : List Alarm
  barriers : List RaisedBarrier
  actions : Actions SceneAction
  kept : Table String InformerId
  reporters : Nat
  journals : List (List Entry)

namespace Scene

def start (config : StoreConfig) (clusters : List StagedCluster) : Scene where
  system := System.start config 0
  dropped := false
  clusters
  clock := .start
  loopsBegun := 0
  waitersBegun := 0
  answersDue := Table.empty
  alarms := []
  barriers := []
  actions := Table.empty
  kept := Table.empty
  reporters := 0
  journals := []

def store (scene : Scene) : Store := scene.system.store

def modifyStore (scene : Scene) (change : Store → Store) : Scene :=
  { scene with system := scene.system.modify change }

def move (scene : Scene) (move : Move) : Scene :=
  { scene with system := scene.system.apply move }

def modifyCluster (scene : Scene) (client : ClientId)
    (change : StagedCluster → StagedCluster) : Scene :=
  { scene with clusters := scene.clusters.modify client change }

def cluster (scene : Scene) (client : ClientId) : StagedCluster :=
  scene.clusters[client]?.getD default

/-! ## The world on its own -/

inductive Job
  | loop (informer : InformerId)
  | waiter (waiter : Nat)
  | alarm (alarm : Nat)
deriving DecidableEq, Repr

instance : Timed Scene where
  clock := clock
  setClock clock scene := { scene with clock }

/-- The jobs that have something to do. A loop and a waiter have it from their start. -/
def readyJobs (scene : Scene) : List Job :=
  let store := scene.store
  ((List.range scene.alarms.length).filter fun alarm =>
      scene.alarms[alarm]?.any (·.isReady (Timed.now scene))).map .alarm
    ++ ((List.range store.informers.started.length).filter fun informer =>
      scene.loopsBegun ≤ informer || (Store.surroundings informer).isReady store).map .loop
    ++ (store.waiters.filter fun waiter =>
      scene.waitersBegun ≤ waiter.id
        || ((store.informers.informer waiter.informer).syncVerdict?
          (store.informers.isStopped waiter.informer) store.stopped).isSome).map (.waiter ·.id)

def runJob (job : Job) (scene : Scene) : Scene :=
  match job with
  | .loop informer =>
      { scene.modifyStore ((Store.surroundings informer).run Clock.fullCredit) with
        loopsBegun := max scene.loopsBegun (informer + 1) }
  | .waiter waiter =>
      { scene.move (.wake waiter) with waitersBegun := max scene.waitersBegun (waiter + 1) }
  | .alarm alarm =>
      { scene with alarms := scene.alarms.modify alarm (·.run (Timed.now scene)) }

def machinery : Machinery Scene Job where
  ready := readyJobs
  run := runJob
  due scene :=
    scene.answersDue.values
      ++ (scene.alarms.filter fun alarm => alarm.state = .set).map Alarm.due

/-! ## Operations -/

/-- What it costs a call that has come to the lock of a review to stand where it stands now. -/
def lockCost? (call : CallId) (scene : Scene) : Option Nat :=
  match scene.system.stage? call with
  | some (.asking _ (.review _) _) => some 1
  | some (.queuing ..) => some 0
  | _ => none

/-- A call goes on with the answer of the cluster. It costs a unit to have waited for the answer.
Without credit no call comes to the lock of a review. -/
def answerCall? (call : CallId) (client : ClientId) (request : Request) (scene : Scene) :
    Option Scene :=
  let waited := scene.answersDue.contains call
  let answered := (scene.cluster client).answer request
  let next :=
    ({ scene with answersDue := scene.answersDue.erase call }.modifyCluster client
      fun _ => answered.1).move (.answer call answered.2)
  let cost := lockCost? call next
  if (waited || cost.isSome) && !Timed.hasCredit scene then none
  else some (Timed.spend (waited.toNat + cost.getD 0) next)

/-- Takes the step that a call can take now, if any. The gate and the lock cost a unit each. -/
def stepCall? (call : CallId) (scene : Scene) : Option Scene :=
  match scene.system.stage? call with
  | some .arriving =>
      if scene.store.gate.isInside call && Timed.hasCredit scene then
        some (Timed.spend 1 (scene.move (.enter call)))
      else none
  | some (.queuing _ flight) =>
      if scene.store.access.flights.isHolder flight call && Timed.hasCredit scene then
        some (Timed.spend 1 (scene.move (.takeLock call)))
      else none
  | some (.asking client request _) =>
      let now := Timed.now scene
      let due :=
        (scene.answersDue.get? call).getD (now + (scene.cluster client).delayOf request)
      if due ≤ now then answerCall? call client request scene
      else if scene.answersDue.contains call then none
      else some { scene with answersDue := scene.answersDue.insert call due }
  | _ => none

def stepCalls? (call : CallId) : Nat → Scene → Option Scene
  | 0, _ => none
  | count + 1, scene =>
      (stepCall? call scene).map fun scene => (stepCalls? call count scene).getD scene

def stagesOf : Operation → Nat
  | .unwatch kinds => kinds.length + 8
  | _ => 12

/-- Begins an operation. It costs a unit to be let in by the gate at once. -/
def begin (operation : Operation) (scene : Scene) : Scene :=
  let call := scene.system.calls.length
  let begun := scene.move (.begin operation)
  match operation.passage?, begun.system.stage? call with
  | none, _ | _, some .arriving => begun
  | some _, _ => Timed.spend 1 begun

/-- Carries out an operation. Without credit it does not approach the gate. -/
def perform (operation : Operation) : Script Scene (Except Error Outcome) :=
  let mayBegin (scene : Scene) : Bool := operation.passage?.isNone || Timed.hasCredit scene
  .wait (fun _ => none) mayBegin id fun _ =>
    .act (begin operation) fun before =>
      let call := before.system.calls.length
      let result? (scene : Scene) : Option (Except Error Outcome) :=
        (scene.system.stage? call).bind Stage.result?
      .wait (stepCalls? call (stagesOf operation)) (fun scene => (result? scene).isSome)
        (fun scene =>
          { scene.move (.giveUp call) with answersDue := scene.answersDue.erase call })
        fun scene => .done ((result? scene).getD (.ok .done))

def performUnit (operation : Operation) : Script Scene (Except Error Unit) := do
  let result ← perform operation
  return result.map fun _ => ()

def list (key : Key) : Script Scene (Except Error (List Object × Bool)) := do
  let result ← perform (.list key)
  return result.map fun outcome =>
    match outcome with
    | .listed objects loading => (objects, loading)
    | _ => ([], false)

def get (key : Key) : Script Scene (Except Error (Option Object)) := do
  let result ← perform (.get key)
  return result.map fun outcome =>
    match outcome with
    | .found object => object
    | _ => none

def isLoading (key : Key) : Script Scene Bool := do
  let result ← perform (.isLoading key)
  return match result with
    | .ok (.loading loading) => loading
    | _ => false

/-- Looks at the informers that a barrier waits for, if there is credit. Every one that has its
first list costs a unit. -/
def look? (index : Nat) (calledOff : Bool) (scene : Scene) : Option Scene :=
  match scene.barriers[index]? with
  | none => none
  | some raised =>
      let looked := raised.barrier.look scene.store.informers calledOff
      if looked = raised.barrier || !Timed.hasCredit scene then none
      else
        let synced (barrier : Barrier) : Nat := barrier.verdicts.countP (·.2)
        let barriers :=
          scene.barriers.modify index fun raised => { raised with barrier := looked }
        some (Timed.spend (synced looked - synced raised.barrier) { scene with barriers })

/-- Waits for the current informers to have their first lists, so long at most; without a limit the
waiting is called off from the start. If the waiting is given up, the alarm stays set. -/
def awaitSync (limit : Option Nat) : Script Scene (List (ResourceType × Bool)) :=
  .act
    (fun scene =>
      { scene with
        barriers := scene.barriers
          ++ [⟨Barrier.raise scene.store.informers, limit.map fun _ => scene.alarms.length⟩]
        alarms := scene.alarms
          ++ (limit.map fun limit => ⟨Timed.now scene + limit, .raised⟩).toList })
    fun before =>
      let index := before.barriers.length
      let alarm := before.alarms.length
      let barrier (scene : Scene) : Barrier :=
        match scene.barriers[index]? with
        | some raised => raised.barrier
        | none => default
      .wait
        (fun scene =>
          look? index (limit.isNone || scene.alarms[alarm]?.any (·.state = .rung)) scene)
        (fun scene => (barrier scene).isDown)
        id
        fun _ =>
          .act
            (fun scene =>
              if limit.isSome then
                { scene with alarms := scene.alarms.modify alarm Alarm.silence }
              else scene)
            fun scene => .done (barrier scene).verdicts

/-! ## Streams -/

def bring (client : ClientId) (plural : String) (item : StreamItem) (scene : Scene) :
    Scene × Nat :=
  let readers := scene.store.informers.readers client plural
  (readers.foldl (fun scene informer => scene.move (.send informer item)) scene, readers.length)

def closeWatches (client : ClientId) (plural : String) (scene : Scene) : Scene :=
  (scene.store.informers.readers client plural).foldl
    (fun scene informer => scene.move (.endStream informer)) scene

def closeJournal (scene : Scene) : Scene :=
  { scene.modifyStore ({ · with journal := [] }) with
    journals := scene.journals ++ [scene.store.journal.reverse] }

def takeJournals (scene : Scene) : Scene × List (List Entry) :=
  let closed := scene.closeJournal
  ({ closed with journals := [] }, closed.journals)

/-- Brings items to the open watches of a plural on a cluster, and lets everything run after each of
them if told so. Returns how many watches there were for each item. -/
def bringAll (client : ClientId) (plural : String) (settling : Bool) :
    List StreamItem → Script Scene (List Nat)
  | [] => return []
  | item :: rest => do
      let count ← Script.get (bring client plural item)
      if settling then
        .sleep 1 (.done ())
        Script.change closeJournal
      return count :: (← bringAll client plural settling rest)

/-! ## Actions -/

def alert (alert : Alert) : Script Scene Unit :=
  Script.change (·.modifyStore (·.enterJournal (.alerted alert)))

def announce (payload : Payload) : Script Scene (Except Error Unit) :=
  match payload.optionalString "type", payload.string "message" with
  | .error error, _ | _, .error error => return .error error
  | .ok severity, .ok message => do
      alert (.raise default ((Severity.ofText? severity).getD .info) message
        Alert.defaultLifetime)
      return .ok ()

def dispatch (path : String) (payload : Payload) : Script Scene (Except Error Unit) := do
  match (← Script.read fun scene => scene.actions.find path) with
  | .error error => return .error error
  | .ok .delete =>
      Deletion.handle default (fun key => performUnit (.delete key)) alert payload
  | .ok (.announce (some error)) => return .error error
  | .ok (.announce none) => announce payload

def register (path : String) (action : SceneAction) (scene : Scene) : Scene :=
  { scene with actions := scene.actions.insert path action }

/-! ## Direct access -/

def direct {α : Type} (change : Store → Store × α) : Script Scene α :=
  Script.get fun scene =>
    let changed := change scene.store
    (scene.modifyStore fun _ => changed.1, changed.2)

def drop (scene : Scene) : Scene :=
  { scene.move .shutdown with dropped := true }

def keep (name : String) (type : ResourceType) (scene : Scene) : Scene × Bool :=
  match scene.store.informers.find? type with
  | some informer => ({ scene with kept := scene.kept.insert name informer }, true)
  | none => (scene, false)

def statusLines (scene : Scene) : List String :=
  if scene.store.stopped then []
  else List.replicate scene.reporters scene.store.statusLine

/-! ## Playing -/

structure Playing where
  scene : Scene
  queue : List Job

/-- No more scripts than this take turns in a fixed order. -/
def crowd : Nat := 30

/-- Plays scripts side by side, each with its delay and the time it is given, to their end. A script
that was given up has no result. -/
def Playing.playAll {α : Type} (playing : Playing)
    (scripts : List (Script Scene α × Nat × Option Nat)) : Playing × List (Option α) :=
  let strands := scripts.map fun (script, delay, allowance) =>
    StrandState.ofScript script delay allowance
  let rota := if scripts.length ≤ crowd then Rota.everyone else .onDemand
  let (values, queue, scene) := machinery.play rota strands playing.queue playing.scene
  (⟨scene, queue⟩, values)

def Playing.play {α : Type} (playing : Playing) (script : Script Scene α) : Playing × Option α :=
  let (playing, results) := playing.playAll [(script, 0, none)]
  (playing, results.head?.join)

def Playing.settle (playing : Playing) : Playing :=
  let (queue, scene) := machinery.settle playing.queue playing.scene
  ⟨scene, queue⟩

end Scene

end ClusterCache
