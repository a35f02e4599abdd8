import ClusterCache.Json.Decoder
import ClusterCache.Kind
import ClusterCache.Text.Quoted

/-!
# Discovery

A server lists the resources of a group and version. A kind is served by the first resource of that
kind; resources inside of others, which have a slash in their names, do not count.
-/

namespace ClusterCache

open Json (Decoder Form)

inductive ResourceScope
  | namespaced
  | clusterWide
deriving DecidableEq, Repr

structure ResourceEntry where
  kind : String
  plural : String
  scope : ResourceScope
  /-- The group, unless it is that of the list. -/
  group : Option String
  /-- The version, unless it is that of the list. -/
  version : Option String
deriving DecidableEq, Repr

structure ResourceList where
  apiVersion : String
  entries : List ResourceEntry
deriving DecidableEq, Repr

namespace ResourceEntry

def empty : ResourceEntry := ⟨"", "", .clusterWide, none, none⟩

/-- An entry. Parts that are absent or null are empty; of two with one name the later counts. -/
def decoder : Decoder ResourceEntry :=
  let names := Decoder.optional (.list .text)
  Form.record
    { repetition := .allowed
      fields :=
        [.kept "kind" (.optional .text) fun entry kind => { entry with kind := kind.getD "" },
          .kept "name" (.optional .text) fun entry name => { entry with plural := name.getD "" },
          .kept "namespaced" (.optional .flag) fun entry isNamespaced =>
            { entry with scope := if isNamespaced.getD false then .namespaced else .clusterWide },
          .kept "group" (.optional .text) fun entry group => { entry with group },
          .kept "version" (.optional .text) fun entry version => { entry with version },
          .note "singularName", .note "storageVersionHash", .checked "verbs" names,
          .checked "shortNames" names, .checked "categories" names] }
    empty some

def isInner (entry : ResourceEntry) : Bool := entry.plural.toList.contains '/'

end ResourceEntry

namespace ResourceList

def empty : ResourceList := ⟨"", []⟩

/-- A list of resources. It must not say that it is anything else. -/
def decoder : Decoder ResourceList :=
  Form.record
    { repetition := .allowed
      fields :=
        [.fixed "apiVersion" "v1", .fixed "kind" "APIResourceList",
          .kept "groupVersion" (.optional .text) fun list apiVersion =>
            { list with apiVersion := apiVersion.getD "" },
          .kept "resources" (.optional (.list ResourceEntry.decoder)) fun list entries =>
            { list with entries := entries.getD [] }] }
    empty some

def resource (list : ResourceList) (entry : ResourceEntry) : ApiResource :=
  let (group, version) := splitApiVersion list.apiVersion
  { group := entry.group.getD group, version := entry.version.getD version,
    apiVersion := joinApiVersion group version, kind := entry.kind, plural := entry.plural }

/-- The scope of a resource: that of the first entry of its name. -/
def scope (list : ResourceList) (plural : String) : ResourceScope :=
  ((list.entries.find? fun entry => entry.plural = plural).map ResourceEntry.scope).getD
    .namespaced

def find? (list : ResourceList) (kind : String) : Option (ApiResource × ResourceScope) :=
  (list.entries.find? fun entry => entry.kind = kind && !entry.isInner).map fun entry =>
    (list.resource entry, list.scope entry.plural)

end ResourceList

namespace GroupVersionKind

def annotated (kind : GroupVersionKind) : String :=
  "GroupVersionKind \x7b group: " ++ Text.quoted kind.group ++ ", version: "
    ++ Text.quoted kind.version ++ ", kind: " ++ Text.quoted kind.kind ++ " \x7d"

def listingPath (kind : GroupVersionKind) : String :=
  (if kind.group.isEmpty then "/api/" else "/apis/") ++ kind.apiVersion

end GroupVersionKind

end ClusterCache
