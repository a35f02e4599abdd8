import ClusterCache.Handlers
import ClusterCache.Replica
import ClusterCache.Text.Quoted
import ClusterCache.Tokens

/-!
# Informers

An informer keeps a replica of one resource type up to date and tells its handlers what changed. Its
loop takes one item of the stream at a time, until its token is cancelled or the stream ends. The
loop runs inside a larger world, because handlers may do anything to that world while they are told
about a change: register and remove handlers, or cancel the token. Once the token is cancelled no
item is taken and no further change is told.
-/

namespace ClusterCache

inductive InformerState
  | unrequested
  | starting
  | synced
  | stopped
deriving DecidableEq, Repr

def InformerState.text : InformerState → String
  | .unrequested => "Unrequested"
  | .starting => "Starting"
  | .synced => "Synced"
  | .stopped => "Stopped"

structure Informer (η : Type) where
  resource : ApiResource
  token : TokenId
  replica : Replica
  handlers : Handlers η
  inbox : List StreamItem
  /-- No item will follow those in the inbox. -/
  ended : Bool
  /-- The loop has not left its stream. -/
  running : Bool
deriving Repr

namespace Informer

variable {η ω : Type}

def start (owner : Nat) (resource : ApiResource) (token : TokenId) : Informer η :=
  ⟨resource, token, Replica.empty, Handlers.empty owner, [], false, true⟩

instance : Inhabited (Informer η) := ⟨start 0 default 0⟩

def type (informer : Informer η) : ResourceType := ResourceType.ofResource informer.resource

def state (informer : Informer η) (cancelled : Bool) : InformerState :=
  if cancelled then .stopped else if informer.replica.synced then .synced else .starting

/-- Adds an item to the stream. What nobody reads any more is not added. -/
def send (informer : Informer η) (item : StreamItem) : Informer η :=
  if informer.running && !informer.ended then
    { informer with inbox := informer.inbox ++ [item] }
  else informer

def endStream (informer : Informer η) : Informer η := { informer with ended := true }

/-- The informer in words. The number of an informer says nothing and stands as `id`. -/
def annotated (informer : Informer η) (id : String) (cancelled : Bool) : String :=
  let type := informer.type
  "Informer \x7b id: " ++ id ++ ", resource_type: ResourceType \x7b group: "
    ++ Text.quoted type.group ++ ", version: " ++ Text.quoted type.version ++ ", resource: "
    ++ Text.quoted type.resource ++ " \x7d, state: " ++ (informer.state cancelled).text
    ++ ", objects: " ++ toString informer.replica.size ++ ", .. \x7d"

/-! ## Waiting for the first list -/

/-- The verdict of a wait for the first list: whether it has arrived, as soon as the informer is
stopped, has its list, or the waiting is called off. -/
def syncVerdict? (informer : Informer η) (cancelled calledOff : Bool) : Option Bool :=
  if cancelled then some false
  else if informer.replica.synced then some true
  else if calledOff then some false
  else none

end Informer

/-! ## The loop in its world -/

/-- How an informer lies in a larger world: where it is, whether its token is cancelled, and what
telling a handler about a change does. -/
structure Surroundings (ω η : Type) where
  informer : ω → Informer η
  replace : Informer η → ω → ω
  isCancelled : ω → Bool
  call : Subscription η → Change → ω → ω

namespace Surroundings

variable {ω η : Type}

/-- Tells the handlers about changes, one after the other, for as long as the token is not
cancelled. -/
def deliver (around : Surroundings ω η) : List Change → ω → ω
  | [], world => world
  | change :: rest, world =>
      if around.isCancelled world then world
      else
        around.deliver rest
          ((around.informer world).handlers.notify around.call change world)

def absorb (around : Surroundings ω η) (item : StreamItem) (world : ω) : ω :=
  let informer := around.informer world
  let taken := informer.replica.takeItem item
  around.deliver taken.2 (around.replace { informer with replica := taken.1 } world)

/-- One turn of the loop. A cancelled token is noticed before the next item is taken. -/
def turn (around : Surroundings ω η) (world : ω) : ω :=
  let informer := around.informer world
  if !informer.running then world
  else if around.isCancelled world then around.replace { informer with running := false } world
  else
    match informer.inbox with
    | item :: rest => around.absorb item (around.replace { informer with inbox := rest } world)
    | [] =>
        if informer.ended then around.replace { informer with running := false } world
        else world

def isReady (around : Surroundings ω η) (world : ω) : Bool :=
  let informer := around.informer world
  informer.running
    && (around.isCancelled world || !informer.inbox.isEmpty || informer.ended)

def turns (around : Surroundings ω η) : Nat → ω → ω
  | 0, world => world
  | count + 1, world => around.turns count (around.turn world)

/-- Turns the loop until it has nothing to do, so many times at most: no handler adds to the stream,
so once for each item and once for the end are enough. -/
def run (around : Surroundings ω η) (limit : Nat) (world : ω) : ω :=
  around.turns (min limit ((around.informer world).inbox.length + 1)) world

end Surroundings

end ClusterCache
