import ClusterCache.Connection.Credentials
import ClusterCache.Connection.HostName
import ClusterCache.Connection.Uri
import ClusterCache.Error
import ClusterCache.Text.Armor

/-!
# Cluster configuration

A configuration names clusters, users and contexts; a context is a cluster, a user and a namespace
to start in. It is written in YAML; of several documents the earlier ones count first. Parts that
are absent or null are left out, but a part of the wrong form makes the whole unusable.
-/

namespace ClusterCache

open Yaml (Value)

structure ContextEntry where
  cluster : String
  user : Option String
  ns : Option String
deriving DecidableEq, Repr

structure ClusterEntry where
  server : Option String
  authority : Material
  proxy : Option String
  serverName : Option String
deriving DecidableEq, Repr

structure Kubeconfig where
  kind : Option String
  version : Option String
  current : Option String
  clusters : List (String × Option ClusterEntry)
  users : List (String × Option Credentials)
  contexts : List (String × Option ContextEntry)
deriving DecidableEq, Repr

structure ConnectionTarget where
  server : String
  ns : String
deriving DecidableEq, Repr

namespace Kubeconfig

def empty : Kubeconfig := ⟨none, none, none, [], [], []⟩

/-! ## Reading -/

def extension? (value : Value) : Option Unit := do
  let fields ← value.fields?
  let _ ← (← Value.field? fields "name" Value.string?)
  (← Value.field? fields "extension" fun data => if data.isData then some () else none)

def extensions? (fields : List (String × Value)) : Option Unit := do
  let _ ← Value.optionalField? fields "extensions" (Value.list? extension?)

def context? (value : Value) : Option ContextEntry := do
  let fields ← value.fields?
  extensions? fields
  return { cluster := ← (← Value.field? fields "cluster" Value.string?)
           user := ← Value.optionalField? fields "user" Value.string?
           ns := ← Value.optionalField? fields "namespace" Value.string? }

def cluster? (value : Value) : Option ClusterEntry := do
  let fields ← value.fields?
  extensions? fields
  let _ ← Value.optionalField? fields "insecure-skip-tls-verify" Value.bool?
  let _ ← Value.optionalField? fields "disable-compression" Value.bool?
  return { server := ← Value.optionalField? fields "server" Value.string?
           authority := ← Material.ofFields? fields "certificate-authority"
           proxy := ← Value.optionalField? fields "proxy-url" Value.string?
           serverName := ← Value.optionalField? fields "tls-server-name" Value.string? }

/-- A named entry whose content may be absent or null. -/
def named? {α : Type} (content : String) (read : Value → Option α) (value : Value) :
    Option (String × Option α) := do
  let fields ← value.fields?
  return (← (← Value.field? fields "name" Value.string?),
    ← Value.optionalField? fields content read)

def entries? {α : Type} (fields : List (String × Value)) (name content : String)
    (read : Value → Option α) : Option (List (String × Option α)) := do
  return (← Value.optionalField? fields name (Value.list? (named? content read))).getD []

def preferences? (value : Value) : Option Unit := do
  let fields ← value.fields?
  let _ ← Value.optionalField? fields "colors" Value.bool?
  extensions? fields

def ofValue? (value : Value) : Option Kubeconfig := do
  let fields ← value.fields?
  let _ ← Value.optionalField? fields "preferences" preferences?
  extensions? fields
  return { kind := ← Value.optionalField? fields "kind" Value.string?
           version := ← Value.optionalField? fields "apiVersion" Value.string?
           current := ← Value.optionalField? fields "current-context" Value.string?
           clusters := ← entries? fields "clusters" "cluster" cluster?
           users := ← entries? fields "users" "user" Credentials.ofValue?
           contexts := ← entries? fields "contexts" "context" context? }

/-! ## Several documents -/

/-- One of two texts; if both are given they must agree. -/
def agreed? (first second : Option String) : Option (Option String) :=
  match first, second with
  | some first, some second => if first = second then some (some first) else none
  | first, second => some (first.or second)

/-- The entries of both lists, without those of the second whose names are in the first. -/
def joined {α : Type} (first second : List (String × α)) : List (String × α) :=
  first ++ second.filter fun entry => first.all fun earlier => earlier.1 ≠ entry.1

/-- Two configurations as one; the first counts before the second. -/
def merge? (first second : Kubeconfig) : Option Kubeconfig := do
  return { kind := ← agreed? first.kind second.kind
           version := ← agreed? first.version second.version
           current := first.current.or second.current
           clusters := joined first.clusters second.clusters
           users := joined first.users second.users
           contexts := joined first.contexts second.contexts }

def ofText? (text : String) : Option Kubeconfig := do
  let documents ← (← Value.readAll text.toList).mapM ofValue?
  documents.foldlM merge? empty

/-! ## Choosing a context -/

def defaultNamespace : String := "default"

def find? {α : Type} (entries : List (String × Option α)) (name : String) : Option α :=
  (entries.find? fun entry => entry.1 = name).bind Prod.snd

structure Route where
  target : ConnectionTarget
  cluster : ClusterEntry
  user : Credentials

namespace Route

def authorities? (cluster : ClusterEntry) : Option (List Text.Armor.Block) :=
  if cluster.authority.isAbsent then some []
  else
    cluster.authority.bytes?.bind fun bytes =>
      Text.Armor.blocks? (bytes.map fun byte => Char.ofNat byte.toNat)

/-- The address of a proxy; an empty one does not count. -/
def proxy (cluster : ClusterEntry) : Option String := cluster.proxy.filter (!·.isEmpty)

def isWellFormed (cluster : ClusterEntry) (server : String) : Bool :=
  Uri.isAddress server && (authorities? cluster).isSome && (proxy cluster).all Uri.isAddress

/-- Requests can be made on the way: there is no proxy, and no certificate to be understood. -/
def isUsable (route : Route) : Bool :=
  (proxy route.cluster).isNone && route.cluster.serverName.all HostName.isHostName
    && ((authorities? route.cluster).getD []).all (fun block => block.label ≠ "CERTIFICATE")
    && route.user.areUsable

end Route

/-- Where a context leads; the current one, unless another is named. A user that is not there is
taken for one of whom nothing is known. -/
def route (config : Kubeconfig) (context : Option String) : Except KubeconfigProblem Route := do
  let some name := context.or config.current | throw .unusable
  let some entry := find? config.contexts name | throw (.missingContext name)
  let some cluster := find? config.clusters entry.cluster | throw .unusable
  let some server := cluster.server | throw .unusable
  if !Route.isWellFormed cluster server then throw .unusable
  return { target := { server, ns := entry.ns.getD defaultNamespace }, cluster,
           user := (entry.user.bind (find? config.users)).getD .anonymous }

/-- Where a connection goes. An unusable configuration is an error; if no context was named either,
then nothing could be inferred. -/
def connect (text : String) (context : Option String) : Except Error ConnectionTarget :=
  let found :=
    match ofText? text with
    | some config => config.route context
    | none => .error .unusable
  match found with
  | .ok route => if route.isUsable then .ok route.target else .error (.request .noClient)
  | .error problem => .error (if context.isSome then .kubeconfig problem else .infer)

end Kubeconfig

end ClusterCache
