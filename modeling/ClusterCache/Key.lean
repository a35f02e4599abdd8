import ClusterCache.Object
import ClusterCache.Payload

/-!
# Keys

A key addresses objects in the cache: those of a kind in a namespace, or in all of them if the
namespace is empty, narrowed to one name or to objects with certain labels. The text of a key is
what errors and the sync tracker know it by.
-/

namespace ClusterCache

/-- What a caller asks the cache for. `ns` is the namespace. -/
structure Key where
  ns : String
  apiVersion : String
  kind : String
  name : Option String
  selector : Option Labels
deriving DecidableEq, Repr, Inhabited

namespace Key

def ofScope (ns apiVersion kind : String) : Key := ⟨ns, apiVersion, kind, none, none⟩

def withName (key : Key) (name : String) : Key := { key with name := some name }

/-- Narrows the key to objects with the given labels; of two for one label the later counts. -/
def withSelector (key : Key) (labels : List (String × String)) : Key :=
  { key with selector := some (Dictionary.ofList labels) }

def groupVersionKind (key : Key) : GroupVersionKind :=
  GroupVersionKind.ofApiVersion key.apiVersion key.kind

/-- The key without name and selector: what a list or a watch is loading. -/
def scope (key : Key) : Key := ofScope key.ns key.apiVersion key.kind

def ofGroupVersionKind (kind : GroupVersionKind) : Key := ofScope "" kind.apiVersion kind.kind

def name? (key : Key) : Option String := key.name.filter fun name => !name.isEmpty

/-! ## Text -/

def selectorText (selector : Labels) : String :=
  ",".intercalate (selector.entries.map fun entry => entry.1 ++ "=" ++ entry.2)

/-- The text of a key. Parts that do not narrow the key are left out. -/
def text (key : Key) : String :=
  "CacheKey["
    ++ (if key.ns.isEmpty then "" else "Namespace='" ++ key.ns ++ "', ")
    ++ "ApiVersion='" ++ key.apiVersion ++ "', Kind='" ++ key.kind ++ "'"
    ++ (match key.name? with
      | some name => ", Name='" ++ name ++ "'"
      | none => "")
    ++ (match key.selector with
      | some selector =>
          if selector.isEmpty then "" else ", Selector='" ++ selectorText selector ++ "'"
      | none => "")
    ++ "]"

/-! ## Matching -/

def selects (selector : Labels) (object : Object) : Bool :=
  selector.entries.all fun entry => object.label? entry.1 = some entry.2

/-- The object falls within the namespace, the name and the selector of the key. An object without
a namespace falls within every namespace; the kind is not compared. -/
def isMatch (key : Key) (object : Object) : Bool :=
  (key.ns.isEmpty || object.metadata.ns.all (· = key.ns))
    && key.name.all (fun name => object.metadata.name = some name)
    && key.selector.all fun selector => selects selector object

/-! ## Conversions -/

def ofObject (object : Object) : Except Error Key :=
  match object.types with
  | none => .error (.custom ("object " ++ object.name ++ " has no apiVersion or kind"))
  | some types =>
      .ok ⟨object.nsOrEmpty, types.apiVersion, types.kind, some object.name, none⟩

/-- The key as the arguments of an action. The selector is left out. -/
def toPayload (key : Key) : Payload :=
  (((Payload.empty.insert "namespace" (.string key.ns)).insert "apiVersion"
    (.string key.apiVersion)).insert "kind" (.string key.kind)).insert "name"
    (.string (key.name.getD ""))

/-- The key that the arguments of an action spell. An empty name is no name. -/
def ofPayload (payload : Payload) : Except Error Key := do
  let ns ← payload.optionalString "namespace"
  let apiVersion ← payload.string "apiVersion"
  let kind ← payload.string "kind"
  let name ← payload.string "name"
  return ⟨ns, apiVersion, kind, if name.isEmpty then none else some name, none⟩

@[simp] theorem scope_scope (key : Key) : key.scope.scope = key.scope := rfl

end Key

end ClusterCache
