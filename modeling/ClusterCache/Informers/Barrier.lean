import ClusterCache.Informers

/-!
# The sync barrier

A barrier waits for every informer that was current when it was raised. Each informer has a verdict
of its own, which stays once it is given, even if the informer is stopped or replaced later.
-/

namespace ClusterCache

structure BarrierEntry where
  type : ResourceType
  informer : InformerId
  verdict : Option Bool
deriving DecidableEq, Repr

structure Barrier where
  entries : List BarrierEntry
deriving DecidableEq, Repr, Inhabited

namespace Barrier

variable {η : Type}

/-- A barrier for the informers that are current. -/
def raise (informers : Informers η) : Barrier :=
  ⟨informers.live.map fun (type, informer) => ⟨type, informer, none⟩⟩

/-- Looks at the informer of a wait without a verdict. -/
def lookAt (informers : Informers η) (calledOff : Bool) (entry : BarrierEntry) : BarrierEntry :=
  match entry.verdict with
  | some _ => entry
  | none =>
      { entry with
        verdict := (informers.informer entry.informer).syncVerdict?
          (informers.isStopped entry.informer) calledOff }

def look (barrier : Barrier) (informers : Informers η) (calledOff : Bool) : Barrier :=
  ⟨barrier.entries.map (lookAt informers calledOff)⟩

def isDown (barrier : Barrier) : Bool := barrier.entries.all fun entry => entry.verdict.isSome

def verdicts (barrier : Barrier) : List (ResourceType × Bool) :=
  barrier.entries.filterMap fun entry => entry.verdict.map fun synced => (entry.type, synced)

end Barrier

end ClusterCache
