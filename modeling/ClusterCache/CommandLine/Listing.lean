import ClusterCache.Change

/-!
# Listings

How a command shows objects and changes: an object by namespace and name, the namespace only if
there is one, and a change by a word and the object as it is afterwards.
-/

namespace ClusterCache.CommandLine

def describe (object : Object) : String :=
  match object.metadata.ns with
  | some ns => ns ++ "/" ++ object.name
  | none => object.name

def describeChange : Change → String
  | .added object => "ADDED " ++ describe object
  | .updated _ object => "MODIFIED " ++ describe object
  | .deleted object => "DELETED " ++ describe object

end ClusterCache.CommandLine
