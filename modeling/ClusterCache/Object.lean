import ClusterCache.Json
import ClusterCache.Text.Timestamp

/-!
# Objects

Objects as a cluster stores them: an optional type, metadata, and any further fields. An object is
identified by its namespace and its name; one that has no name yet goes by the name it will be
generated from.
-/

namespace ClusterCache

abbrev Labels := Dictionary String

structure TypeMeta where
  apiVersion : String
  kind : String
deriving DecidableEq, Repr

/-- Which fields of an object somebody has set, and when. -/
structure ManagedFieldsEntry where
  apiVersion : Option String := none
  fieldsType : Option String := none
  fieldsV1 : Option Json := none
  manager : Option String := none
  operation : Option String := none
  subresource : Option String := none
  time : Option Text.Timestamp := none
deriving Repr

structure OwnerReference where
  apiVersion : String
  blockOwnerDeletion : Option Bool
  controller : Option Bool
  kind : String
  name : String
  uid : String
deriving DecidableEq, Repr

/-- The part of an object that every kind has. `ns` is the namespace. -/
structure Metadata where
  name : Option String := none
  generateName : Option String := none
  ns : Option String := none
  resourceVersion : Option String := none
  labels : Option Labels := none
  annotations : Option Labels := none
  creationTimestamp : Option Text.Timestamp := none
  deletionGracePeriodSeconds : Option Int := none
  deletionTimestamp : Option Text.Timestamp := none
  finalizers : Option (List String) := none
  generation : Option Int := none
  managedFields : Option (List ManagedFieldsEntry) := none
  ownerReferences : Option (List OwnerReference) := none
  selfLink : Option String := none
  uid : Option String := none
deriving Repr

def Metadata.empty : Metadata := {}

instance : Inhabited Metadata := ⟨Metadata.empty⟩

/-- An object of any kind. `fields` are the top-level fields besides type and metadata. -/
structure Object where
  types : Option TypeMeta
  metadata : Metadata
  fields : Dictionary Json
deriving Repr, Inhabited

structure ObjectId where
  ns : String
  name : String
deriving DecidableEq, Repr, Inhabited

def ObjectId.le (left right : ObjectId) : Bool :=
  if left.ns ≠ right.ns then left.ns < right.ns else left.name ≤ right.name

namespace Object

/-- The name, else the name it is generated from, else nothing. -/
def name (object : Object) : String :=
  (object.metadata.name.or object.metadata.generateName).getD ""

def nsOrEmpty (object : Object) : String := object.metadata.ns.getD ""

def id (object : Object) : ObjectId := ⟨object.nsOrEmpty, object.name⟩

def resourceVersion (object : Object) : Option String := object.metadata.resourceVersion

def label? (object : Object) (key : String) : Option String :=
  object.metadata.labels.bind fun labels => labels.get? key

end Object

/-! ## Encoding -/

/-- A field that is left out if it has no value. -/
def givenField {α : Type} (name : String) (encode : α → Json) (value : Option α) :
    List (String × Json) :=
  (value.map fun value => (name, encode value)).toList

def integerJson (value : Int) : Json := .number (.integer value)

def timestampJson (timestamp : Text.Timestamp) : Json := .string timestamp.text

def ManagedFieldsEntry.toJson (entry : ManagedFieldsEntry) : Json :=
  .ofFields (givenField "apiVersion" .string entry.apiVersion
    ++ givenField "fieldsType" .string entry.fieldsType
    ++ givenField "fieldsV1" id entry.fieldsV1
    ++ givenField "manager" .string entry.manager
    ++ givenField "operation" .string entry.operation
    ++ givenField "subresource" .string entry.subresource
    ++ givenField "time" timestampJson entry.time)

def OwnerReference.toJson (owner : OwnerReference) : Json :=
  .ofFields ([("apiVersion", .string owner.apiVersion), ("kind", .string owner.kind),
      ("name", .string owner.name), ("uid", .string owner.uid)]
    ++ givenField "blockOwnerDeletion" .bool owner.blockOwnerDeletion
    ++ givenField "controller" .bool owner.controller)

namespace Object

def labelsJson (labels : Labels) : Json :=
  .object (labels.entries.map fun entry => (entry.1, .string entry.2))

def metadataJson (metadata : Metadata) : Json :=
  .ofFields (givenField "name" .string metadata.name
    ++ givenField "generateName" .string metadata.generateName
    ++ givenField "namespace" .string metadata.ns
    ++ givenField "resourceVersion" .string metadata.resourceVersion
    ++ givenField "labels" labelsJson metadata.labels
    ++ givenField "annotations" labelsJson metadata.annotations
    ++ givenField "creationTimestamp" timestampJson metadata.creationTimestamp
    ++ givenField "deletionGracePeriodSeconds" integerJson metadata.deletionGracePeriodSeconds
    ++ givenField "deletionTimestamp" timestampJson metadata.deletionTimestamp
    ++ givenField "finalizers" (fun names => .array (names.map .string)) metadata.finalizers
    ++ givenField "generation" integerJson metadata.generation
    ++ givenField "managedFields" (fun entries => .array (entries.map (·.toJson)))
      metadata.managedFields
    ++ givenField "ownerReferences" (fun owners => .array (owners.map (·.toJson)))
      metadata.ownerReferences
    ++ givenField "selfLink" .string metadata.selfLink
    ++ givenField "uid" .string metadata.uid)

/-- The object as JSON. Absent parts stay absent; the metadata is always present. -/
def toJson (object : Object) : Json :=
  let types : List (String × Json) :=
    match object.types with
    | some types => [("apiVersion", .string types.apiVersion), ("kind", .string types.kind)]
    | none => []
  .ofFields (types ++ ("metadata", metadataJson object.metadata) :: object.fields.entries)

end Object

end ClusterCache
