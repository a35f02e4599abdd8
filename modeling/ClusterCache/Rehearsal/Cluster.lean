import ClusterCache.Store.Request

/-!
# Staged clusters

A cluster that answers from a table of objects and behaves as it is told: it denies verbs, answers
reviews late or not at all, goes offline, or refuses writes.
-/

namespace ClusterCache

structure ObjectPlace where
  plural : String
  id : ObjectId
deriving DecidableEq, Repr

def ObjectPlace.le (left right : ObjectPlace) : Bool :=
  if left.plural ≠ right.plural then left.plural < right.plural else left.id.le right.id

structure StagedCluster where
  kinds : Table GroupVersionKind ApiResource
  objects : Table ObjectPlace Object
  /-- The verbs that are denied, each on a plural. -/
  denied : List (String × String)
  /-- How long a review takes, in milliseconds. -/
  reviewDelay : Nat
  failsReviews : Bool
  offline : Bool
  conflicts : Bool
  writeError : Option Error
deriving Repr

namespace StagedCluster

def ofKinds (resources : List ApiResource) : StagedCluster where
  kinds := Table.ofList (resources.map fun resource => (resource.servedKind, resource))
  objects := Table.empty
  denied := []
  reviewDelay := 0
  failsReviews := false
  offline := false
  conflicts := false
  writeError := none

instance : Inhabited StagedCluster := ⟨ofKinds []⟩

/-! ## Direction -/

def addKind (cluster : StagedCluster) (resource : ApiResource) : StagedCluster :=
  { cluster with kinds := cluster.kinds.insert resource.servedKind resource }

def removeKind (cluster : StagedCluster) (kind : GroupVersionKind) : StagedCluster :=
  { cluster with kinds := cluster.kinds.erase kind }

def deny (cluster : StagedCluster) (verb plural : String) : StagedCluster :=
  { cluster with denied := (verb, plural) :: cluster.denied }

def allow (cluster : StagedCluster) (verb plural : String) : StagedCluster :=
  { cluster with denied := cluster.denied.filter (· ≠ (verb, plural)) }

def put (cluster : StagedCluster) (plural : String) (object : Object) : StagedCluster :=
  { cluster with objects := cluster.objects.insert ⟨plural, object.id⟩ object }

def contents (cluster : StagedCluster) : List (ObjectPlace × Object) :=
  cluster.objects.entries.mergeSort fun left right => left.1.le right.1

/-! ## Answers -/

/-- How long the answer to a request takes, in milliseconds. -/
def delayOf (cluster : StagedCluster) : Request → Nat
  | .review _ => cluster.reviewDelay
  | _ => 0

/-- The answer to a request. Writes change the table. -/
def answer (cluster : StagedCluster) : Request → StagedCluster × Answer
  | .resource kind =>
      (cluster, .resource
        (if cluster.offline then .error (.io .connectionRefused)
        else
          match cluster.kinds.get? kind with
          | some resource => .ok resource
          | none => .error (.mapping kind.kind "no matches for kind")))
  | .review access =>
      (cluster, .review
        (if cluster.failsReviews then .error (.custom "connection refused")
        else .ok (!cluster.denied.contains (access.verb, access.resource))))
  | .watch .. => (cluster, .written (.ok ()))
  | .get resource ns name =>
      (cluster, .object (.ok (cluster.objects.get? ⟨resource.plural, ⟨ns, name⟩⟩)))
  | .replace resource object =>
      match cluster.writeError with
      | some error => (cluster, .written (.error error))
      | none =>
          if cluster.conflicts then
            (cluster, .written
              (.error (.conflict object.name "the object has been modified")))
          else (cluster.put resource.plural object, .written (.ok ()))
  | .delete resource ns name =>
      match cluster.writeError with
      | some error => (cluster, .written (.error error))
      | none =>
          let place : ObjectPlace := ⟨resource.plural, ⟨ns, name⟩⟩
          if cluster.objects.contains place then
            ({ cluster with objects := cluster.objects.erase place }, .written (.ok ()))
          else
            (cluster, .written
              (.error (.notFound (resource.plural ++ "/" ++ ns ++ "/" ++ name))))

end StagedCluster

end ClusterCache
