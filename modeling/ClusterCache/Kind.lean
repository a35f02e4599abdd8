import ClusterCache.Text.Blank

/-!
# Kinds and resources

A kind of object is named by a group, a version and the kind itself; an API version is the text
`group/version`, or the version alone in the group without a name. A cluster serves each kind as a
resource, and a resource type is what one watch loop runs for.
-/

namespace ClusterCache

/-! ## Kinds -/

structure GroupVersionKind where
  group : String
  version : String
  kind : String
deriving DecidableEq, Repr, Inhabited

/-- The text of a group and a version; the group without a name is left out. -/
def joinApiVersion (group version : String) : String :=
  if group.isEmpty then version else group ++ "/" ++ version

/-- The group and the version that an API version names. The group ends at the first slash; a text
without one is a version in the group without a name. -/
def splitApiVersion (apiVersion : String) : String × String :=
  (Text.cut '/' apiVersion).getD ("", apiVersion)

namespace GroupVersionKind

def ofApiVersion (apiVersion kind : String) : GroupVersionKind :=
  ⟨(splitApiVersion apiVersion).1, (splitApiVersion apiVersion).2, kind⟩

def apiVersion (kind : GroupVersionKind) : String := joinApiVersion kind.group kind.version

end GroupVersionKind

/-! ## Resources -/

/-- How a cluster serves a kind. `apiVersion` is where it is served. -/
structure ApiResource where
  group : String
  version : String
  apiVersion : String
  kind : String
  plural : String
deriving DecidableEq, Repr, Inhabited

namespace ApiResource

def served (group version kind plural : String) : ApiResource :=
  ⟨group, version, joinApiVersion group version, kind, plural⟩

def servedKind (resource : ApiResource) : GroupVersionKind :=
  ⟨resource.group, resource.version, resource.kind⟩

end ApiResource

/-- A type of resource: the unit that is watched. -/
structure ResourceType where
  group : String
  version : String
  resource : String
deriving DecidableEq, Repr, Inhabited

namespace ResourceType

def ofResource (resource : ApiResource) : ResourceType :=
  ⟨resource.group, resource.version, resource.plural⟩

def text (type : ResourceType) : String :=
  if type.group.isEmpty then type.version ++ "/" ++ type.resource
  else type.group ++ "/" ++ type.version ++ "/" ++ type.resource

def le (left right : ResourceType) : Bool :=
  if left.group ≠ right.group then left.group < right.group
  else if left.version ≠ right.version then left.version < right.version
  else left.resource ≤ right.resource

end ResourceType

end ClusterCache
