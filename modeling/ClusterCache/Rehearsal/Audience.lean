import ClusterCache.Informer
import ClusterCache.Rehearsal.Schedule
import ClusterCache.Store.Listener

/-!
# Audiences

An audience is a set of handlers that keep a common log and may act on the set, or on the informer
that it belongs to, while they are told about a change.
-/

namespace ClusterCache

inductive MemberReaction
  | subscribe (label : String) (key : Key)
  /-- Removes the latest registration under a label. -/
  | unsubscribe (label : String)
  | cancel
  | clear
deriving Repr

structure Member where
  label : String
  silent : Bool
  reactions : List (Trigger × MemberReaction)
deriving Repr

structure Audience where
  handlers : Handlers Member
  labels : Table String WatchId
  cancelled : Bool
  clearable : Bool
  log : List (String × Change)
deriving Repr

namespace Audience

def empty (clearable : Bool) : Audience := ⟨Handlers.empty 0, Table.empty, false, clearable, []⟩

def subscribe (audience : Audience) (key : Key) (member : Member) : Audience :=
  let subscribed := audience.handlers.subscribe key member
  { audience with
    handlers := subscribed.1
    labels := audience.labels.insert member.label subscribed.2 }

/-- Removes the latest registration under a label. Also returns whether it was there; nothing for
an unknown label. -/
def unsubscribe (audience : Audience) (label : String) : Audience × Option Bool :=
  match audience.labels.get? label with
  | none => (audience, none)
  | some id =>
      let removed := audience.handlers.unsubscribe id
      ({ audience with handlers := removed.1 }, some removed.2)

def clear (audience : Audience) : Audience :=
  { audience with handlers := audience.handlers.clear }

def react (audience : Audience) : MemberReaction → Audience
  | .subscribe label key => audience.subscribe key ⟨label, false, []⟩
  | .unsubscribe label => (audience.unsubscribe label).1
  | .cancel => { audience with cancelled := true }
  | .clear => if audience.clearable then audience.clear else audience

def tell (subscription : Subscription Member) (change : Change) (audience : Audience) : Audience :=
  let member := subscription.handler
  (member.reactions.filter fun reaction => reaction.1.fires change).foldl
    (fun audience reaction => audience.react reaction.2)
    (if member.silent then audience
      else { audience with log := (member.label, change) :: audience.log })

def notify (audience : Audience) (change : Change) : Audience :=
  audience.handlers.notify tell change audience

def takeLog (audience : Audience) : Audience × List (String × Change) :=
  ({ audience with log := [] }, audience.log.reverse)

end Audience

/-! ## An informer before an audience -/

/-- An informer before an audience, under a virtual clock. -/
structure Showing where
  informer : Informer Member
  audience : Audience
  clock : Clock
  calledOff : Bool
  logs : List (List (String × Change))

namespace Showing

def start (resource : ApiResource) : Showing :=
  ⟨Informer.start 0 resource 0, Audience.empty false, .start, false, []⟩

def current (showing : Showing) : Informer Member :=
  { showing.informer with handlers := showing.audience.handlers }

def surroundings : Surroundings Showing Member where
  informer := current
  replace informer showing :=
    { showing with informer, audience.handlers := informer.handlers }
  isCancelled showing := showing.audience.cancelled
  call subscription change showing :=
    { showing with audience := Audience.tell subscription change showing.audience }

instance : Timed Showing where
  clock := clock
  setClock clock showing := { showing with clock }

def machinery : Machinery Showing Unit where
  ready showing := if surroundings.isReady showing then [()] else []
  run _ := surroundings.run Clock.fullCredit
  due _ := []

def modifyAudience (showing : Showing) (change : Audience → Audience) : Showing :=
  { showing with audience := change showing.audience }

def send (items : List StreamItem) (showing : Showing) : Showing :=
  { showing with informer := items.foldl Informer.send showing.informer }

def close (showing : Showing) : Showing :=
  { showing with informer := showing.informer.endStream }

def cancel (showing : Showing) : Showing :=
  showing.modifyAudience ({ · with cancelled := true })

def closeLog (showing : Showing) : Showing :=
  let taken := showing.audience.takeLog
  { showing with audience := taken.1, logs := showing.logs ++ [taken.2] }

def takeLogs (showing : Showing) : Showing × List (List (String × Change)) :=
  let closed := showing.closeLog
  ({ closed with logs := [] }, closed.logs)

/-- Adds items to the stream, and lets everything run after each of them. -/
def sendEach : List StreamItem → Script Showing Unit
  | [] => return ()
  | item :: rest => do
      Script.change (send [item])
      .sleep 1 (.done ())
      Script.change closeLog
      sendEach rest

def verdict? (showing : Showing) : Option Bool :=
  showing.current.syncVerdict? showing.audience.cancelled showing.calledOff

def awaitSync : Script Showing (Option Bool) :=
  .wait (fun _ => none) (fun showing => showing.verdict?.isSome) id
    fun showing => .done showing.verdict?

structure Playing where
  showing : Showing
  queue : List Unit

def Playing.playAll {α : Type} (playing : Playing) (rota : Rota)
    (scripts : List (Script Showing α × Nat)) : Playing × List (Option α) :=
  let strands := scripts.map fun (script, delay) =>
    StrandState.ofScript script delay none
  let (values, queue, showing) := machinery.play rota strands playing.queue playing.showing
  (⟨showing, queue⟩, values)

/-- Waits for the first list. The waiting is called off after some time, or from the start if that
is none; after some other time items are added to the stream, and the token is cancelled if so
wished. -/
def Playing.awaitSync (playing : Playing) (callOffAfter sendAfter : Nat)
    (items : List StreamItem) (cancels : Bool) : Playing × Bool :=
  let begun : Playing :=
    { playing with showing := { playing.showing with calledOff := callOffAfter = 0 } }
  let (played, results) := begun.playAll .revolving
    [(Showing.awaitSync, 0),
      (do Script.change ({ · with calledOff := true }); return none, callOffAfter),
      (do
        Script.change fun showing =>
          let showing := showing.send items
          if cancels then showing.cancel else showing
        return none, sendAfter)]
  (played, (results.head?.join.join).getD false)

def Playing.play {α : Type} (playing : Playing) (script : Script Showing α) : Playing :=
  (playing.playAll .everyone [(script, 0)]).1

def Playing.settle (playing : Playing) : Playing :=
  let (queue, showing) := machinery.settle playing.queue playing.showing
  ⟨showing, queue⟩

end Showing

end ClusterCache
