import ClusterCache.Connection.Address
import ClusterCache.Connection.Discovery
import ClusterCache.Connection.Http
import ClusterCache.Object.Decoding
import ClusterCache.Store.Request

/-!
# Connections

A connection asks a server what the store wants to know. It remembers the resource of every kind
that it has discovered, and whether the objects of the kind live in namespaces: a kind whose objects
do not is never addressed inside of one. A failed discovery is not remembered.
-/

namespace ClusterCache

open Json (Decoder Form)

structure Connection where
  ns : String
  discovered : Table GroupVersionKind (ApiResource × ResourceScope)
deriving Repr

inductive Exchange
  | answered (answer : Answer)
  | asks (request : HttpRequest)

namespace Connection

def start (ns : String) : Connection := ⟨ns, Table.empty⟩

instance : Inhabited Connection := ⟨start ""⟩

def scope? (connection : Connection) (resource : ApiResource) : Option ResourceScope :=
  (connection.discovered.get? resource.servedKind).map Prod.snd

/-- The objects of a resource in a namespace. An empty namespace means all of them, and so does any
namespace for a resource without namespaces. -/
def collection (connection : Connection) (resource : ApiResource) (ns : String) : Collection :=
  if ns.isEmpty || connection.scope? resource = some .clusterWide then ⟨resource, none⟩
  else ⟨resource, some ns⟩

/-! ## Requests -/

def reviewPath : String := "/apis/authorization.k8s.io/v1/selfsubjectaccessreviews"

def reviewJson (access : AccessKey) : Json :=
  .ofFields [("apiVersion", .string "authorization.k8s.io/v1"),
    ("kind", .string "SelfSubjectAccessReview"), ("metadata", .ofFields []),
    ("spec", .ofFields [("resourceAttributes", .ofFields [("group", .string access.group),
      ("namespace", .string access.ns), ("resource", .string access.resource),
      ("verb", .string access.verb)])])]

/-- The request to the server that a request of the store leads to. A watch starts with a list. -/
def httpRequest (connection : Connection) : Request → Except RequestFailure HttpRequest
  | .resource kind => HttpRequest.build .get kind.listingPath none
  | .review access => HttpRequest.build .post (reviewPath ++ "?") (some (reviewJson access))
  | .watch resource ns =>
      HttpRequest.build .get
        ((connection.collection resource (ns.getD "")).listTarget none) none
  | .get resource ns name => do
      HttpRequest.build .get (← (connection.collection resource ns).objectPath name) none
  | .replace resource object => do
      let path ← (connection.collection resource object.nsOrEmpty).objectPath object.name
      HttpRequest.build .put (path ++ "?") (some object.toJson)
  | .delete resource ns name => do
      let path ← (connection.collection resource ns).objectPath name
      HttpRequest.build .delete (path ++ "?") (some (.ofFields []))

/-! ## Replies -/

/-- What a failed discovery means: the kind is not known if the server says so, else the failure is
passed on. -/
def discoveryError (kind : GroupVersionKind) (failure : RequestFailure) : Error :=
  let unknown : Error :=
    .mapping (kind.group ++ "/" ++ kind.version ++ ", Kind=" ++ kind.kind) failure.message
  match failure with
  | .missingKind _ => unknown
  | .refused answer => if answer.code = 404 then unknown else .request failure
  | _ => .request failure

def readDiscovery (kind : GroupVersionKind) (reply : HttpReply) :
    Except RequestFailure (ApiResource × ResourceScope) :=
  (reply.decoded ResourceList.decoder).bind fun list =>
    match list.find? kind.kind with
    | some found => .ok found
    | none => .error (.missingKind kind.annotated)

def discover (connection : Connection) (kind : GroupVersionKind) (reply : HttpReply) :
    Connection × Except Error ApiResource :=
  match readDiscovery kind reply with
  | .ok found =>
      ({ connection with discovered := connection.discovered.insert kind found }, .ok found.1)
  | .error failure => (connection, .error (discoveryError kind failure))

def requirement : Decoder Unit :=
  Form.record
    { repetition := .allowed
      fields := [.note "key", .note "operator", .checked "values" (.optional (.list .text))] }
    () some

def selector : Decoder Unit :=
  Form.record
    { repetition := .allowed
      fields := [.note "rawSelector",
        .checked "requirements" (.optional (.list requirement))] }
    () some

def resourceQuestion : Decoder Unit :=
  Form.record
    { repetition := .allowed
      fields := [.checked "fieldSelector" (.optional selector), .note "group",
        .checked "labelSelector" (.optional selector), .note "name", .note "namespace",
        .note "resource", .note "subresource", .note "verb", .note "version"] }
    () some

def pathQuestion : Decoder Unit :=
  Form.record { repetition := .allowed, fields := [.note "path", .note "verb"] } () some

def question : Decoder Unit :=
  Form.record
    { repetition := .allowed
      fields := [.checked "nonResourceAttributes" (.optional pathQuestion),
        .checked "resourceAttributes" (.optional resourceQuestion)] }
    () some

def finding : Decoder Bool :=
  Form.record
    { repetition := .allowed
      fields := [.kept "allowed" (.optional .flag) fun _ allowed => allowed.getD false,
        .checked "denied" (.optional .flag), .note "reason", .note "evaluationError"] }
    false some

/-- Whether a review allows what it asked. It must not say that it is anything else. -/
def review : Decoder Bool :=
  Form.record
    { repetition := .allowed
      fields := [.fixed "apiVersion" "authorization.k8s.io/v1",
        .fixed "kind" "SelfSubjectAccessReview",
        .checked "metadata" (.optional Metadata.decoder), .checked "spec" (.optional question),
        .kept "status" (.optional finding) fun _ allowed => allowed.getD false] }
    false some

def readReview (reply : HttpReply) : Except Error Bool :=
  (reply.decoded review).mapError .request

/-- The object that was asked for. That it does not exist is no error. -/
def readObject (reply : HttpReply) : Except Error (Option Object) :=
  match reply.decoded Object.decoder with
  | .ok object => .ok (some object)
  | .error failure =>
      match failure with
      | .refused answer =>
          if answer.reason = "NotFound" then .ok none else .error (.request failure)
      | _ => .error (.request failure)

def readReplaced (resource : ApiResource) (object : Object) (reply : HttpReply) :
    Except Error Object :=
  (reply.decoded Object.decoder).mapError fun failure =>
    match failure with
    | .refused answer =>
        if answer.code = 409 then
          .conflict (resource.plural ++ "/" ++ object.nsOrEmpty ++ "/" ++ object.name)
            answer.message
        else .request failure
    | _ => .request failure

def deletionCause : Decoder Unit :=
  Form.recordOrRow
    { repetition := .refused
      fields := [.checked "reason" .text, .checked "message" .text, .checked "field" .text] }
    () some

def deletionDetails : Decoder Unit :=
  Form.recordOrRow
    { repetition := .refused
      fields := [.checked "name" .text, .checked "group" .text, .checked "kind" .text,
        .checked "uid" .text, .checked "causes" (.list deletionCause),
        .checked "retryAfterSeconds" (.integer 0 4294967295)] }
    () some

def deletionEnding (text : String) : Option Unit :=
  if text = "Success" || text = "Failure" then some () else none

def deletionStatus : Decoder Unit :=
  Form.record
    { repetition := .refused
      fields := [.checked "status" (.optional (.choice deletionEnding)),
        .checked "message" .text, .checked "reason" .text,
        .checked "details" (.optional deletionDetails), .checked "code" Status.codeDecoder] }
    () some

/-- What a deletion is answered with: how it went, if the answer says that it is a status, else the
object that is going. -/
def deletion : Decoder Unit := fun depth characters => do
  let (json, _) ← Decoder.any depth characters
  if (json.field? "kind").bind Json.string? = some "Status" then deletionStatus depth characters
  else return ((), (← Object.decoder depth characters).2)

def readDeletion (reply : HttpReply) : Except Error Unit :=
  (reply.decoded deletion).mapError .request

end Connection

/-! ## Exchanges -/

def Request.failed (request : Request) (error : Error) : Answer :=
  match request with
  | .resource _ => .resource (.error error)
  | .review _ => .review (.error error)
  | .get .. => .object (.error error)
  | .watch .. | .replace .. | .delete .. => .written (.error error)

namespace Connection

/-- Starts a request. A kind that has been discovered is answered from memory, and a request that
cannot be built fails. A watch has no answer of its own. -/
def begin (connection : Connection) (request : Request) : Exchange :=
  let asked : Exchange :=
    match connection.httpRequest request with
    | .ok asked => .asks asked
    | .error failure => .answered (request.failed (.request failure))
  match request with
  | .resource kind =>
      match connection.discovered.get? kind with
      | some found => .answered (.resource (.ok found.1))
      | none => asked
  | .watch .. => .answered (.written (.ok ()))
  | _ => asked

def conclude (connection : Connection) (request : Request) (reply : HttpReply) :
    Connection × Answer :=
  match request with
  | .resource kind =>
      let discovered := connection.discover kind reply
      (discovered.1, .resource discovered.2)
  | .review _ => (connection, .review (readReview reply))
  | .watch .. => (connection, .written (.ok ()))
  | .get .. => (connection, .object (readObject reply))
  | .replace resource object =>
      (connection, .written ((readReplaced resource object reply).map fun _ => ()))
  | .delete .. => (connection, .written (readDeletion reply))

def perform {μ : Type → Type} [Monad μ] (send : HttpRequest → μ HttpReply)
    (connection : Connection) (request : Request) : μ (Connection × Answer) :=
  match connection.begin request with
  | .answered answer => pure (connection, answer)
  | .asks asked => do return connection.conclude request (← send asked)

end Connection

end ClusterCache
