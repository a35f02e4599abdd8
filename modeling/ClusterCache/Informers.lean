import ClusterCache.Informer

/-!
# The informers of a cache

At most one informer is current for each resource type. An informer that is asked for is reused
unless it was stopped; otherwise a new one is started on a stream of its own. All informers ever
started are kept by number, since a loop outlives its place among the current ones until it notices
that its token was cancelled.
-/

namespace ClusterCache

abbrev InformerId := Nat

abbrev ClientId := Nat

structure Source where
  client : ClientId
  plural : String
  ns : Option String
deriving DecidableEq, Repr

structure Informers (η : Type) where
  tokens : Tokens
  /-- The current informer of each type; none under a type whose informer was stopped. -/
  current : Table ResourceType (Option InformerId)
  /-- Every informer ever started, by number, with the stream it reads. -/
  started : List (Source × Informer η)
  client : ClientId
  ns : Option String
deriving Repr

namespace Informers

variable {η : Type}

def empty (client : ClientId) (ns : Option String) : Informers η :=
  ⟨Tokens.empty, Table.empty, [], client, ns⟩

instance : Inhabited (Informers η) := ⟨empty 0 none⟩

/-! ## Single informers -/

def informer (informers : Informers η) (id : InformerId) : Informer η :=
  match informers.started[id]? with
  | some entry => entry.2
  | none => default

def source? (informers : Informers η) (id : InformerId) : Option Source :=
  informers.started[id]?.map Prod.fst

def modify (informers : Informers η) (id : InformerId) (change : Informer η → Informer η) :
    Informers η :=
  { informers with started := informers.started.modify id fun entry => (entry.1, change entry.2) }

def isStopped (informers : Informers η) (id : InformerId) : Bool :=
  informers.tokens.isCancelled (informers.informer id).token

def stateOf (informers : Informers η) (id : InformerId) : InformerState :=
  (informers.informer id).state (informers.isStopped id)

/-! ## Informers by type -/

def find? (informers : Informers η) (type : ResourceType) : Option InformerId :=
  (informers.current.get? type).join

def state (informers : Informers η) (type : ResourceType) : InformerState :=
  match informers.current.get? type with
  | none => .unrequested
  | some none => .stopped
  | some (some id) => informers.stateOf id

def types (informers : Informers η) : List ResourceType :=
  ((informers.current.entries.filter fun entry => entry.2.isSome).map Prod.fst).mergeSort
    ResourceType.le

def live (informers : Informers η) : List (ResourceType × InformerId) :=
  informers.types.filterMap fun type => (informers.find? type).map fun id => (type, id)

def size (informers : Informers η) : Nat :=
  (informers.current.values.filter Option.isSome).length

def start (informers : Informers η) (resource : ApiResource) : Informers η × InformerId :=
  let type := ResourceType.ofResource resource
  let issued := (informers.tokens.revoke type).1.issue type
  let id := informers.started.length
  let source : Source := ⟨informers.client, resource.plural, informers.ns⟩
  ({ informers with
      tokens := issued.1
      current := informers.current.insert type (some id)
      started := informers.started ++ [(source, .start id resource issued.2)] }, id)

def reusable? (informers : Informers η) (resource : ApiResource) : Option InformerId :=
  (informers.find? (ResourceType.ofResource resource)).filter fun id => !informers.isStopped id

/-- The informer for a resource, started unless one is current and not stopped. Also returns
whether it was started. -/
def obtain (informers : Informers η) (resource : ApiResource) : Informers η × InformerId × Bool :=
  match informers.reusable? resource with
  | some id => (informers, id, false)
  | none =>
      let started := informers.start resource
      (started.1, started.2, true)

/-- Stops the informer of a type. Also returns whether one was current. -/
def stop (informers : Informers η) (type : ResourceType) : Informers η × Bool :=
  ({ informers with
      tokens := (informers.tokens.revoke type).1
      current :=
        if informers.current.contains type then informers.current.insert type none
        else informers.current },
    (informers.find? type).isSome)

/-- Stops and forgets every informer. Also returns how many were current. -/
def stopAll (informers : Informers η) : Informers η × Nat :=
  ({ informers with tokens := informers.tokens.revokeAll.1, current := Table.empty },
    informers.size)

def changeClient (informers : Informers η) (client : ClientId) : Informers η :=
  { informers with client := client }

/-- Stops every informer for good, those started later too. -/
def shutdown (informers : Informers η) : Informers η :=
  { informers with tokens := informers.tokens.shutdown }

/-! ## Streams -/

def readers (informers : Informers η) (client : ClientId) (plural : String) : List InformerId :=
  (List.range informers.started.length).filter fun id =>
    (informers.source? id).any (fun source => source.client = client && source.plural = plural)
      && (informers.informer id).running && !(informers.informer id).ended

end Informers

end ClusterCache
