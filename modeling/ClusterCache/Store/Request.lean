import ClusterCache.Error
import ClusterCache.Informers
import ClusterCache.Object

/-!
# Requests to a cluster

What the store asks a cluster, and what a cluster answers. Opening a watch has no answer: its events
arrive as a stream.
-/

namespace ClusterCache

inductive Request
  | resource (kind : GroupVersionKind)
  | review (access : AccessKey)
  | watch (resource : ApiResource) (ns : Option String)
  | get (resource : ApiResource) (ns name : String)
  | replace (resource : ApiResource) (object : Object)
  | delete (resource : ApiResource) (ns name : String)
deriving Repr

inductive Answer
  | resource (result : Except Error ApiResource)
  | review (result : Except Error Bool)
  | object (result : Except Error (Option Object))
  | written (result : Except Error Unit)

end ClusterCache
