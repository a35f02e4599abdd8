import ClusterCache.Change
import ClusterCache.Key

/-!
# Handlers

The handlers registered on one informer, in the order of their registration. A change goes to the
handlers that were registered when it arrived and whose key fits its object; a handler may register
and remove others while it runs, which only later changes see. Registrations are numbered under
their owner, so that no registration anywhere bears the number of another.
-/

namespace ClusterCache

structure WatchId where
  owner : Nat
  serial : Nat
deriving DecidableEq, Repr, Inhabited

/-- A handler and the key whose objects it is told about. -/
structure Subscription (η : Type) where
  id : WatchId
  key : Key
  handler : η
deriving Repr

structure Handlers (η : Type) where
  owner : Nat
  issued : Nat
  subscriptions : List (Subscription η)
deriving Repr

namespace Handlers

variable {η ω : Type}

def empty (owner : Nat) : Handlers η := ⟨owner, 0, []⟩

instance : Inhabited (Handlers η) := ⟨empty 0⟩

def subscribe (handlers : Handlers η) (key : Key) (handler : η) : Handlers η × WatchId :=
  let id : WatchId := ⟨handlers.owner, handlers.issued⟩
  ({ handlers with
      issued := handlers.issued + 1
      subscriptions := handlers.subscriptions ++ [⟨id, key, handler⟩] }, id)

/-- Removes a registration. Also returns whether it was there. -/
def unsubscribe (handlers : Handlers η) (id : WatchId) : Handlers η × Bool :=
  ({ handlers with subscriptions := handlers.subscriptions.filter fun entry => entry.id ≠ id },
    handlers.subscriptions.any fun entry => entry.id = id)

def clear (handlers : Handlers η) : Handlers η := { handlers with subscriptions := [] }

def size (handlers : Handlers η) : Nat := handlers.subscriptions.length

def isEmpty (handlers : Handlers η) : Bool := handlers.subscriptions.isEmpty

def matching (handlers : Handlers η) (change : Change) : List (Subscription η) :=
  handlers.subscriptions.filter fun entry => entry.key.isMatch change.object

/-- Tells every matching handler about a change, in the order of registration. What `call` does to
the registrations does not change who is told. -/
def notify (handlers : Handlers η) (call : Subscription η → Change → ω → ω) (change : Change)
    (world : ω) : ω :=
  (handlers.matching change).foldl (fun world entry => call entry change world) world

@[simp] theorem subscriptions_clear (handlers : Handlers η) :
    handlers.clear.subscriptions = [] := rfl

end Handlers

end ClusterCache
