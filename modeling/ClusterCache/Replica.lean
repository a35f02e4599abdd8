import ClusterCache.Change
import ClusterCache.Key
import ClusterCache.Table

/-!
# Replicas

A replica holds the objects of one resource type as a stream of watch events tells them. A full
list arrives as a start, its objects and an end; until the end it is kept apart, and only then takes
the place of what was there. Each event yields the changes that handlers are to be told.
-/

namespace ClusterCache

/-- One event of a watch. A full list comes as `init`, an `initApply` for each object, and
`initDone`; `apply` and `delete` are about single objects. -/
inductive WatchEvent
  | init
  | initApply (object : Object)
  | initDone
  | apply (object : Object)
  | delete (object : Object)
deriving Repr

inductive StreamItem
  | event (event : WatchEvent)
  /-- The stream failed for now and goes on by itself. -/
  | failure
deriving Repr

abbrev Objects := Table ObjectId Object

structure Replica where
  objects : Objects
  /-- The full list that is arriving. -/
  incoming : Option Objects
  synced : Bool
deriving Repr

namespace Replica

def empty : Replica := ⟨Table.empty, none, false⟩

instance : Inhabited Replica := ⟨empty⟩

/-! ## Watch events -/

/-- What replaces the stored object under the identity of `object`, if anything. An object whose
version did not change is not replaced. -/
def replacement? (stored : Objects) (entry : ObjectId × Object) : Option Change :=
  match stored.get? entry.1 with
  | none => some (.added entry.2)
  | some old =>
      if old.resourceVersion = entry.2.resourceVersion then none
      else some (.updated old entry.2)

/-- The changes that lead from one set of objects to another: first what was added or replaced,
then what was removed. -/
def difference (stored fresh : Objects) : List Change :=
  fresh.entries.filterMap (replacement? stored)
    ++ (stored.entries.filter fun entry => !fresh.contains entry.1).map fun entry =>
        .deleted entry.2

def take (replica : Replica) : WatchEvent → Replica × List Change
  | .init => ({ replica with incoming := some Table.empty }, [])
  | .initApply object =>
      ({ replica with
          incoming := some ((replica.incoming.getD Table.empty).insert object.id object) }, [])
  | .initDone =>
      let fresh := replica.incoming.getD Table.empty
      (⟨fresh, none, true⟩, difference replica.objects fresh)
  | .apply object =>
      ({ replica with objects := replica.objects.insert object.id object },
        [match replica.objects.get? object.id with
          | some old => .updated old object
          | none => .added object])
  | .delete object =>
      ({ replica with objects := replica.objects.erase object.id },
        [.deleted ((replica.objects.get? object.id).getD object)])

def takeItem (replica : Replica) : StreamItem → Replica × List Change
  | .event event => replica.take event
  | .failure => (replica, [])

def takeAll (replica : Replica) (items : List StreamItem) : Replica :=
  items.foldl (fun replica item => (replica.takeItem item).1) replica

/-! ## Reading -/

def size (replica : Replica) : Nat := replica.objects.size

def list (replica : Replica) (key : Key) : List Object :=
  ((replica.objects.entries.filter fun entry => key.isMatch entry.2).mergeSort
    fun left right => left.1.le right.1).map Prod.snd

/-- The object of the given namespace and name, else the one of that name without a namespace. -/
def get? (replica : Replica) (ns name : String) : Option Object :=
  (replica.objects.get? ⟨ns, name⟩).or (replica.objects.get? ⟨"", name⟩)

@[simp] theorem takeAll_nil (replica : Replica) : replica.takeAll [] = replica := rfl

@[simp] theorem takeAll_cons (replica : Replica) (item : StreamItem) (items : List StreamItem) :
    replica.takeAll (item :: items) = (replica.takeItem item).1.takeAll items := rfl

end Replica

end ClusterCache
