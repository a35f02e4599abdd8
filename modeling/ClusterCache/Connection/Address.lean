import ClusterCache.Error
import ClusterCache.Kind
import ClusterCache.Text.FormEncoded

/-!
# Addresses

Where a server keeps objects: the objects of a resource lie together under one path, or under one
path for each namespace, and a single object lies below them under its name.
-/

namespace ClusterCache

structure Collection where
  resource : ApiResource
  ns : Option String
deriving DecidableEq, Repr

namespace Collection

def nsPart (collection : Collection) : String :=
  match collection.ns with
  | some ns => "namespaces/" ++ ns ++ "/"
  | none => ""

def path (collection : Collection) : String :=
  (if collection.resource.group.isEmpty then "/api/" else "/apis/")
    ++ collection.resource.apiVersion ++ "/" ++ collection.nsPart ++ collection.resource.plural

/-- The path of one object. No object has an empty name. -/
def objectPath (collection : Collection) (name : String) : Except RequestFailure String :=
  if name.isEmpty then .error .malformed else .ok (collection.path ++ "/" ++ name)

def pageSize : Nat := 500

/-- The target of a page of the list of the objects: the first page, or the one that a token
names. -/
def listTarget (collection : Collection) (token : Option String) : String :=
  collection.path ++ "?" ++ Text.formParameters
    (("limit", toString pageSize) :: (token.map fun token => ("continue", token)).toList)

/-- How many seconds a server goes on to report changes. -/
def changesTimeout : Nat := 290

def changesTarget (collection : Collection) (version : String) : String :=
  collection.path ++ "?" ++ Text.formParameters
    [("watch", "true"), ("timeoutSeconds", toString changesTimeout),
      ("allowWatchBookmarks", "true"), ("resourceVersion", version)]

end Collection

end ClusterCache
