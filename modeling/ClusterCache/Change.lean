import ClusterCache.Object

/-!
# Changes

What handlers are told: one object was added, replaced or removed.
-/

namespace ClusterCache

inductive Change
  | added (object : Object)
  | updated (old new : Object)
  | deleted (object : Object)
deriving Repr

namespace Change

/-- The object after the change, or as it was before its removal. -/
def object : Change → Object
  | added object => object
  | updated _ new => new
  | deleted object => object

def old? : Change → Option Object
  | updated old _ => some old
  | _ => none

def id (change : Change) : ObjectId := change.object.id

end Change

end ClusterCache
