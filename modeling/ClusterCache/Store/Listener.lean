import ClusterCache.Change
import ClusterCache.Kind
import ClusterCache.Key

/-!
# Listeners and callbacks

A listener is a handler as the store knows it: it has a label, leaves a line in the journal whenever
it is told about a change, and may act on the store while it is told. A callback runs after every
successful write and may register further callbacks.
-/

namespace ClusterCache

inductive Trigger
  | added
  | updated
  | deleted
  | any
deriving DecidableEq, Repr

def Trigger.fires : Trigger → Change → Bool
  | .any, _ => true
  | .added, .added _ => true
  | .updated, .updated .. => true
  | .deleted, .deleted _ => true
  | _, _ => false

inductive Reaction
  | shutdown
  | stop (type : ResourceType)
  /-- Removes the latest registration under a label, by default its own. -/
  | unsubscribe (label : Option String)
  | subscribe (type : ResourceType) (label : String) (key : Key)
deriving Repr

structure Listener where
  label : String
  reactions : List (Trigger × Reaction)
deriving Repr

inductive Callback
  | labelled (label : String) (registers : List Callback)
deriving Repr

namespace Callback

def label : Callback → String
  | labelled label _ => label

/-- The callbacks that this one registers whenever it runs. -/
def registers : Callback → List Callback
  | labelled _ registers => registers

end Callback

end ClusterCache
