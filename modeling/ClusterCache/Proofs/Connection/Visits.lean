import ClusterCache.Connection.Watch
import ClusterCache.Proofs.Connection.Exchanges
import ClusterCache.Proofs.Runs
import Mathlib.Data.List.Induction

/-!
# What a connection remembers

A connection is visited again and again: it discovers kinds, reads and writes objects, and asks the
questions of watches, while the server replies as it likes or not at all. Main statement: a kind
that has been discovered is answered from memory from then on, a failed discovery leaves no trace,
and every request about a discovered resource is addressed by the scope of its kind. Objects without
namespaces are never addressed in one, whatever namespace is given; all others are addressed in the
given namespace, unless it is empty.
-/

namespace ClusterCache

/-! ## Discoveries -/

namespace Connection

/-- The request that asks how a kind is served, if it can be built. -/
def inquiry (kind : GroupVersionKind) : Except RequestFailure HttpRequest :=
  HttpRequest.build .get kind.listingPath none

/-- What comes of asking how a kind is served, where the server would reply as given. -/
def discovery (kind : GroupVersionKind) (reply : HttpReply) :
    Except RequestFailure (ApiResource × ResourceScope) :=
  (inquiry kind).bind fun _ => readDiscovery kind reply

theorem discovery_of_isAddress {kind : GroupVersionKind}
    (isAddress : Uri.isAddress kind.listingPath = true) (reply : HttpReply) :
    discovery kind reply = readDiscovery kind reply := by
  simp only [discovery, inquiry, HttpRequest.build, isAddress, if_true]
  rfl

end Connection

/-! ## Visits -/

inductive Errand
  | request (request : Request)
  /-- The next question of a watch of a resource. -/
  | question (resource : ApiResource) (ns : Option String) (question : WatchQuestion)

namespace Errand

/-- The resource that the errand is about, and the namespace that it is given. -/
def about? : Errand → Option (ApiResource × String)
  | request (.resource _) | request (.review _) => none
  | request (.watch resource ns) => some (resource, ns.getD "")
  | request (.get resource ns _) | request (.delete resource ns _) => some (resource, ns)
  | request (.replace resource object) => some (resource, object.nsOrEmpty)
  | question resource ns _ => some (resource, ns.getD "")

/-- What a request about objects names after their path. -/
def rest : Errand → String
  | request (.get _ _ name) => "/" ++ name
  | request (.replace _ object) => "/" ++ object.name ++ "?"
  | request (.delete _ _ name) => "/" ++ name ++ "?"
  | question _ _ (.page token) =>
      "?" ++ Text.formParameters (("limit", toString Collection.pageSize) ::
        (token.map fun token => ("continue", token)).toList)
  | question _ _ (.changes version) =>
      "?" ++ Text.formParameters
        [("watch", "true"), ("timeoutSeconds", toString Collection.changesTimeout),
          ("allowWatchBookmarks", "true"), ("resourceVersion", version)]
  | _ => ""

end Errand

/-- An errand, and what the server replies if it is asked. -/
structure Visit where
  errand : Errand
  reply : HttpReply

/-- What comes of a visit. -/
structure Visited where
  connection : Connection
  /-- The items of a watch arrive as a stream instead. -/
  answer? : Option Answer
  sent : List HttpRequest

/-- Where the objects of a resource lie, in a namespace or in all, and what follows. -/
def ApiResource.target (resource : ApiResource) (ns : Option String) (rest : String) : String :=
  let group := if resource.group.isEmpty then "/api/" else "/apis/"
  let target :=
    match ns with
    | some ns =>
        group ++ resource.apiVersion ++ "/" ++ ("namespaces/" ++ ns ++ "/") ++ resource.plural
          ++ rest
    | none => group ++ resource.apiVersion ++ "/" ++ resource.plural ++ rest
  String.ofList (Uri.sentPart target.toList)

/-- Where the objects of a scope are addressed, given a namespace. -/
def ResourceScope.place (scope : ResourceScope) (ns : String) : Option String :=
  match scope with
  | .clusterWide => none
  | .namespaced => if ns.isEmpty then none else some ns

namespace Connection

/-- Sends a request and notes it down. The server replies as given. -/
def noting (reply : HttpReply) (request : HttpRequest) : StateM (List HttpRequest) HttpReply := do
  modify (· ++ [request])
  return reply

def visit (connection : Connection) (visit : Visit) : Visited :=
  match visit.errand with
  | .request request =>
      let ((connection, answer), sent) :=
        (connection.perform (noting visit.reply) request).run []
      ⟨connection, some answer, sent⟩
  | .question resource ns question =>
      let (_, sent) :=
        (question.ask (noting visit.reply) (connection.collection resource (ns.getD ""))).run []
      ⟨connection, none, sent⟩

def afterAll (ns : String) (visits : List Visit) : Connection :=
  visits.foldl (fun connection visit => (connection.visit visit).connection) (start ns)

/-- By the visit the server is asked how the kind is served, and says so. -/
def Discovers (connection : Connection) (visit : Visit) (kind : GroupVersionKind)
    (found : ApiResource × ResourceScope) : Prop :=
  visit.errand = .request (.resource kind) ∧ (connection.visit visit).sent ≠ [] ∧
    readDiscovery kind visit.reply = .ok found

/-- The server has said how the kind is served. -/
def Discovered (ns : String) (visits : List Visit) (kind : GroupVersionKind)
    (found : ApiResource × ResourceScope) : Prop :=
  ∃ visit first rest, visits = first ++ visit :: rest ∧
    (afterAll ns first).Discovers visit kind found

/-! ### What a visit does -/

section Visits

variable {connection : Connection} {request : Request} {reply : HttpReply}

theorem visit_of_answered {answer : Answer}
    (answered : connection.begin request = .answered answer) :
    connection.visit ⟨.request request, reply⟩ = ⟨connection, some answer, []⟩ := by
  simp only [visit, perform, answered]
  rfl

theorem visit_of_asks {asked : HttpRequest} (asks : connection.begin request = .asks asked) :
    connection.visit ⟨.request request, reply⟩ =
      ⟨(connection.conclude request reply).1, some (connection.conclude request reply).2,
        [asked]⟩ := by
  simp only [visit, perform, asks]
  rfl

theorem visit_question (resource : ApiResource) (ns : Option String) (question : WatchQuestion) :
    connection.visit ⟨.question resource ns question, reply⟩ =
      ⟨connection, none,
        (question.request (connection.collection resource (ns.getD ""))).toOption.toList⟩ := by
  simp only [visit, WatchQuestion.ask]
  cases question.request (connection.collection resource (ns.getD "")) <;> rfl

theorem visit_known {kind : GroupVersionKind} {found : ApiResource × ResourceScope}
    (known : connection.discovered.get? kind = some found) :
    connection.visit ⟨.request (.resource kind), reply⟩ =
      ⟨connection, some (.resource (.ok found.1)), []⟩ :=
  visit_of_answered (by simp only [begin, known])

theorem begin_unknown {kind : GroupVersionKind} {asked : HttpRequest}
    (unknown : connection.discovered.get? kind = none) (built : inquiry kind = .ok asked) :
    connection.begin (.resource kind) = .asks asked := by
  simp only [begin, unknown]
  rw [show connection.httpRequest (.resource kind) = .ok asked from built]

/-- A kind that is not known is asked for, and remembered if the server says how it is served. -/
theorem visit_found {kind : GroupVersionKind} {found : ApiResource × ResourceScope}
    (unknown : connection.discovered.get? kind = none) (told : discovery kind reply = .ok found) :
    connection.visit ⟨.request (.resource kind), reply⟩ =
      ⟨{ connection with discovered := connection.discovered.insert kind found },
        some (.resource (.ok found.1)), (inquiry kind).toOption.toList⟩ := by
  unfold discovery at told
  cases built : inquiry kind with
  | error failure =>
      rw [built] at told
      cases told
  | ok asked =>
      rw [built] at told
      rw [visit_of_asks (begin_unknown unknown built)]
      simp only [conclude, discover, show readDiscovery kind reply = .ok found from told]
      rfl

/-- Nothing is remembered of a discovery that fails. -/
theorem visit_failed {kind : GroupVersionKind} {failure : RequestFailure}
    (unknown : connection.discovered.get? kind = none)
    (told : discovery kind reply = .error failure) :
    connection.visit ⟨.request (.resource kind), reply⟩ =
      ⟨connection, some (.resource (.error (discoveryError kind failure))),
        (inquiry kind).toOption.toList⟩ := by
  unfold discovery at told
  cases built : inquiry kind with
  | error problem =>
      obtain rfl := HttpRequest.malformed_of_build built
      rw [built] at told
      cases told
      have answered : connection.begin (.resource kind) =
          .answered (.resource (.error (.request .malformed))) := by
        simp only [begin, unknown]
        rw [show connection.httpRequest (.resource kind) = .error .malformed from built]
        rfl
      rw [visit_of_answered answered]
      rfl
  | ok asked =>
      rw [built] at told
      rw [visit_of_asks (begin_unknown unknown built)]
      simp only [conclude, discover, show readDiscovery kind reply = .error failure from told]
      rfl

/-- Whoever asks for a kind that is not known sends the request, if it can be built. -/
theorem sent_unknown {kind : GroupVersionKind} (unknown : connection.discovered.get? kind = none) :
    (connection.visit ⟨.request (.resource kind), reply⟩).sent =
      (inquiry kind).toOption.toList := by
  cases told : discovery kind reply with
  | ok found => rw [visit_found unknown told]
  | error failure => rw [visit_failed unknown told]

/-- Only discoveries change what is remembered. -/
theorem connection_visit_of_ne {visit : Visit}
    (other : ∀ kind, visit.errand ≠ .request (.resource kind)) :
    (connection.visit visit).connection = connection := by
  obtain ⟨errand, reply⟩ := visit
  cases errand with
  | question resource ns question => rw [visit_question]
  | request request =>
      cases begun : connection.begin request with
      | answered answer => rw [visit_of_answered begun]
      | asks asked =>
          rw [visit_of_asks begun]
          cases request with
          | resource kind => exact absurd rfl (other kind)
          | _ => rfl

theorem discovers_iff {kind : GroupVersionKind} {found : ApiResource × ResourceScope} :
    connection.Discovers ⟨.request (.resource kind), reply⟩ kind found ↔
      connection.discovered.get? kind = none ∧ discovery kind reply = .ok found := by
  cases known : connection.discovered.get? kind with
  | some other => simp [Discovers, visit_known known]
  | none =>
      simp only [Discovers, sent_unknown known, discovery, true_and]
      cases inquiry kind with
      | error failure => simp [Except.bind, Except.toOption]
      | ok asked => cases readDiscovery kind reply <;> simp [Except.bind, Except.toOption]

/-- After a visit a kind is known as it was before, or as the server has said by the visit. -/
theorem get?_visit_iff {visit : Visit} {kind : GroupVersionKind}
    {found : ApiResource × ResourceScope} :
    (connection.visit visit).connection.discovered.get? kind = some found ↔
      connection.discovered.get? kind = some found ∨ connection.Discovers visit kind found := by
  obtain ⟨errand, reply⟩ := visit
  by_cases isDiscovery : ∃ asked, errand = .request (.resource asked)
  · obtain ⟨asked, rfl⟩ := isDiscovery
    by_cases same : kind = asked
    · subst same
      rw [discovers_iff]
      cases known : connection.discovered.get? kind with
      | some other => simp [visit_known known, known]
      | none =>
          cases told : discovery kind reply with
          | ok other => simp [visit_found known told]
          | error failure => simp [visit_failed known told, known]
    · have unasked : ¬ connection.Discovers ⟨.request (.resource asked), reply⟩ kind found := by
        rintro ⟨sameErrand, _⟩
        cases sameErrand
        exact same rfl
      simp only [unasked, or_false]
      cases known : connection.discovered.get? asked with
      | some other => rw [visit_known known]
      | none =>
          cases told : discovery asked reply with
          | ok other => rw [visit_found known told, Table.get?_insert_of_ne _ same]
          | error failure => rw [visit_failed known told]
  · have unasked : ¬ connection.Discovers ⟨errand, reply⟩ kind found :=
      fun discovers => isDiscovery ⟨kind, discovers.1⟩
    rw [connection_visit_of_ne fun asked isAsked => isDiscovery ⟨asked, isAsked⟩]
    simp only [unasked, or_false]

end Visits

/-! ### What is remembered after many visits -/

section Runs

variable {ns : String} {visits : List Visit} {kind : GroupVersionKind}
  {found : ApiResource × ResourceScope}

theorem afterAll_concat (visit : Visit) :
    afterAll ns (visits ++ [visit]) = ((afterAll ns visits).visit visit).connection := by
  simp [afterAll]

theorem discovered_concat_iff {visit : Visit} :
    Discovered ns (visits ++ [visit]) kind found ↔
      Discovered ns visits kind found ∨ (afterAll ns visits).Discovers visit kind found := by
  simp only [Discovered, exists_split_concat_iff, exists_or, exists_eq_left']

theorem Discovered.append (discovered : Discovered ns visits kind found) (later : List Visit) :
    Discovered ns (visits ++ later) kind found := by
  obtain ⟨visit, first, rest, rfl, discovers⟩ := discovered
  exact ⟨visit, first, rest ++ later, by simp, discovers⟩

theorem Discovered.visited (discovered : Discovered ns visits kind found) :
    ∃ visit ∈ visits, visit.errand = .request (.resource kind) ∧
      readDiscovery kind visit.reply = .ok found := by
  obtain ⟨visit, first, rest, rfl, isDiscovery, _, told⟩ := discovered
  exact ⟨visit, by simp, isDiscovery, told⟩

/-- A connection remembers what the server has said, and nothing else. -/
theorem get?_afterAll_iff :
    (afterAll ns visits).discovered.get? kind = some found ↔ Discovered ns visits kind found := by
  induction visits using List.reverseRecOn with
  | nil =>
      constructor
      · intro known
        cases known
      · rintro ⟨visit, first, rest, split, _⟩
        simp at split
  | append_singleton visits visit inductionHypothesis =>
      rw [afterAll_concat, get?_visit_iff, discovered_concat_iff, inductionHypothesis]

/-- The first word of the server about a kind stays the only one. -/
theorem Discovered.unique {other : ApiResource × ResourceScope}
    (discovered : Discovered ns visits kind found)
    (discoveredOther : Discovered ns visits kind other) : found = other :=
  Option.some.inj
    ((get?_afterAll_iff.2 discovered).symm.trans (get?_afterAll_iff.2 discoveredOther))

end Runs

/-! ### Where requests go -/

section Targets

variable {connection : Connection} {request : HttpRequest} {resource : ApiResource} {given : String}

theorem target_of_path {ns : Option String} {rest : String} {method : HttpMethod}
    {body : Option Json}
    (built : HttpRequest.build method ((Collection.mk resource ns).path ++ rest) body =
      .ok request) : request.target = resource.target ns rest := by
  rw [HttpRequest.target_of_build built]
  cases ns <;> simp [Collection.path, Collection.nsPart, ApiResource.target]

theorem target_of_objectPath {ns : Option String} {name mark : String} {method : HttpMethod}
    {body : Option Json}
    (built : ((Collection.mk resource ns).objectPath name).bind
      (fun path => HttpRequest.build method (path ++ mark) body) = .ok request) :
    request.target = resource.target ns ("/" ++ name ++ mark) := by
  unfold Collection.objectPath at built
  split at built
  · cases built
  · simp only [Except.bind, String.append_assoc] at built
    rw [String.append_assoc]
    exact target_of_path built

theorem collection_resource (connection : Connection) (resource : ApiResource) (ns : String) :
    connection.collection resource ns = ⟨resource, (connection.collection resource ns).ns⟩ := by
  unfold collection
  split <;> rfl

/-- Whatever is sent about a resource goes to where the connection keeps its objects. -/
theorem target_of_sent {errand : Errand} {reply : HttpReply}
    (about : errand.about? = some (resource, given))
    (isSent : request ∈ (connection.visit ⟨errand, reply⟩).sent) :
    request.target = resource.target (connection.collection resource given).ns errand.rest := by
  cases errand with
  | question resource ns question =>
      cases about
      rw [visit_question] at isSent
      cases built : question.request (connection.collection resource (ns.getD "")) with
      | error failure => simp [built, Except.toOption] at isSent
      | ok sent =>
          obtain rfl : request = sent := by simpa [built, Except.toOption] using isSent
          rw [collection_resource] at built
          cases question with
          | page token =>
              rw [WatchQuestion.request, Collection.listTarget, String.append_assoc] at built
              exact target_of_path built
          | changes version =>
              rw [WatchQuestion.request, Collection.changesTarget, String.append_assoc] at built
              exact target_of_path built
  | request asked =>
      cases begun : connection.begin asked with
      | answered answer => simp [visit_of_answered begun] at isSent
      | asks sent =>
          rw [visit_of_asks begun, List.mem_singleton] at isSent
          subst isSent
          have begins := connection.begins asked
          rw [begun] at begins
          obtain _ | _ | _ | ⟨_, _, noWatch, built⟩ := begins
          cases asked with
          | watch resource ns => exact absurd rfl (noWatch resource ns)
          | resource kind | review access => cases about
          | get resource ns name =>
              cases about
              rw [httpRequest_get, collection_resource] at built
              rw [target_of_objectPath built, String.append_empty]
              rfl
          | delete resource ns name =>
              cases about
              rw [httpRequest, collection_resource] at built
              exact target_of_objectPath built
          | replace resource object =>
              cases about
              rw [httpRequest, collection_resource] at built
              exact target_of_objectPath built

end Targets

/-! ## Runs -/

/-- The connection, asked for the kind, reports the error, with the reply as given. -/
structure FailsToDiscover (connection : Connection) (kind : GroupVersionKind) (reply : HttpReply)
    (error : Error) : Prop where
  unchanged : (connection.visit ⟨.request (.resource kind), reply⟩).connection = connection
  asked : ∀ again,
    (connection.visit ⟨.request (.resource kind), again⟩).sent = (inquiry kind).toOption.toList
  reported : ∃ failure, discovery kind reply = .error failure ∧
    (error.category = .mapping ↔ failure.DeniesKind) ∧
    (¬ failure.DeniesKind → error = .request failure)

/-- How a connection behaves after the visits. -/
structure KeepsDiscoveries (ns : String) (visits : List Visit) : Prop where
  unique : ∀ kind found other, Discovered ns visits kind found → Discovered ns visits kind other →
    found = other
  addressed : ∀ kind resource scope, Discovered ns visits kind (resource, scope) →
    ∀ errand given reply, errand.about? = some (resource, given) →
    ∀ request ∈ ((afterAll ns visits).visit ⟨errand, reply⟩).sent,
      request.target = resource.target (scope.place given) errand.rest
  /-- A watch may go on to ask where it began. -/
  settled : ∀ kind resource scope, Discovered ns visits kind (resource, scope) →
    ∀ later given,
      (afterAll ns (visits ++ later)).collection resource given = ⟨resource, scope.place given⟩
  lasting : ∀ first visit rest kind resource, visits = first ++ visit :: rest →
    visit.errand = .request (.resource kind) →
    ((afterAll ns first).visit visit).answer? = some (.resource (.ok resource)) →
    (∃ scope, Discovered ns visits kind (resource, scope)) ∧
    ∀ reply, (afterAll ns visits).visit ⟨.request (.resource kind), reply⟩ =
      ⟨afterAll ns visits, some (.resource (.ok resource)), []⟩
  failing : ∀ kind reply error,
    ((afterAll ns visits).visit ⟨.request (.resource kind), reply⟩).answer? =
      some (.resource (.error error)) →
    (afterAll ns visits).FailsToDiscover kind reply error

section Runs

variable {ns : String} {visits : List Visit} {connection : Connection} {kind : GroupVersionKind}
  {resource : ApiResource} {scope : ResourceScope} {reply : HttpReply}

theorem collection_of_known (known : connection.discovered.get? kind = some (resource, scope))
    (pinned : resource.servedKind = kind) (given : String) :
    connection.collection resource given = ⟨resource, scope.place given⟩ := by
  simp only [collection, scope?, pinned, known]
  cases scope with
  | clusterWide => simp [ResourceScope.place]
  | namespaced => by_cases empty : given.isEmpty <;> simp [ResourceScope.place, empty]

/-- A connection that answers how a kind is served knows it from then on. -/
theorem known_of_answer
    (answered : (connection.visit ⟨.request (.resource kind), reply⟩).answer? =
      some (.resource (.ok resource))) :
    ∃ scope, (connection.visit ⟨.request (.resource kind), reply⟩).connection.discovered.get? kind =
      some (resource, scope) := by
  cases known : connection.discovered.get? kind with
  | some found =>
      rw [visit_known known] at answered ⊢
      cases answered
      exact ⟨found.2, known⟩
  | none =>
      cases told : discovery kind reply with
      | ok found =>
          rw [visit_found known told] at answered ⊢
          cases answered
          exact ⟨found.2, Table.get?_insert_self _ _ _⟩
      | error failure =>
          rw [visit_failed known told] at answered
          cases answered

theorem failsToDiscover_of_answer {error : Error}
    (answered : (connection.visit ⟨.request (.resource kind), reply⟩).answer? =
      some (.resource (.error error))) : connection.FailsToDiscover kind reply error := by
  cases known : connection.discovered.get? kind with
  | some found =>
      rw [visit_known known] at answered
      cases answered
  | none =>
      cases told : discovery kind reply with
      | ok found =>
          rw [visit_found known told] at answered
          cases answered
      | error failure =>
          rw [visit_failed known told] at answered
          cases answered
          exact ⟨by rw [visit_failed known told], fun _ => sent_unknown known, failure, told,
            category_discoveryError_iff kind failure,
            fun other => discoveryError_of_not_deniesKind other kind⟩

/-- As long as the server tells of each kind by its own name, a connection keeps what it has
discovered and addresses by it. -/
theorem visits_keep_discoveries (ns : String) (visits : List Visit)
    (pinned : ∀ kind found, Discovered ns visits kind found → found.1.servedKind = kind) :
    KeepsDiscoveries ns visits where
  unique _ _ _ := Discovered.unique
  addressed kind resource scope discovered errand given reply about request isSent := by
    have collected := collection_of_known (get?_afterAll_iff.2 discovered)
      (pinned kind (resource, scope) discovered) given
    rw [target_of_sent about isSent, collected]
  settled kind resource scope discovered later given :=
    collection_of_known (get?_afterAll_iff.2 (discovered.append later))
      (pinned kind (resource, scope) discovered) given
  lasting := by
    rintro first ⟨errand, reply⟩ rest kind resource rfl rfl answered
    obtain ⟨scope, known⟩ := known_of_answer answered
    rw [← afterAll_concat, get?_afterAll_iff] at known
    have lasts := known.append rest
    rw [List.append_assoc, List.singleton_append] at lasts
    exact ⟨⟨scope, lasts⟩, fun reply => visit_known (get?_afterAll_iff.2 lasts)⟩
  failing kind reply error := failsToDiscover_of_answer

end Runs

/-! A server that is not reached at first, and then tells of a kind with namespaces and of one
without. -/

def nodeKind : GroupVersionKind := ⟨"", "v1", "Node"⟩

def podKind : GroupVersionKind := ⟨"", "v1", "Pod"⟩

def coreList : HttpReply :=
  .answered 200 ("\x7b\"groupVersion\":\"v1\",\"resources\":["
    ++ "\x7b\"kind\":\"Node\",\"name\":\"nodes\"\x7d,"
    ++ "\x7b\"kind\":\"Pod\",\"name\":\"pods\",\"namespaced\":true\x7d]\x7d")

def coreVisits : List Visit :=
  [⟨.request (.resource nodeKind), .noNetwork⟩, ⟨.request (.resource nodeKind), coreList⟩,
    ⟨.request (.resource podKind), coreList⟩]

theorem readDiscovery_nodes :
    readDiscovery nodeKind coreList = .ok (.served "" "v1" "Node" "nodes", .clusterWide) := by
  decide +kernel

theorem readDiscovery_pods :
    readDiscovery podKind coreList = .ok (.served "" "v1" "Pod" "pods", .namespaced) := by
  decide +kernel

theorem coreVisits_keep_discoveries :
    (∀ kind found, Discovered "ops" coreVisits kind found → found.1.servedKind = kind) ∧
      Discovered "ops" coreVisits nodeKind (.served "" "v1" "Node" "nodes", .clusterWide) ∧
      KeepsDiscoveries "ops" coreVisits := by
  have pinned : ∀ kind found, Discovered "ops" coreVisits kind found →
      found.1.servedKind = kind := by
    intro kind found discovered
    obtain ⟨visit, member, isDiscovery, told⟩ := discovered.visited
    simp only [coreVisits, List.mem_cons, List.not_mem_nil, or_false] at member
    rcases member with rfl | rfl | rfl <;> cases isDiscovery
    · cases told
    · cases readDiscovery_nodes.symm.trans told
      rfl
    · cases readDiscovery_pods.symm.trans told
      rfl
  have isAddress : Uri.isAddress nodeKind.listingPath = true := by decide +kernel
  have told : discovery nodeKind coreList =
      .ok (.served "" "v1" "Node" "nodes", .clusterWide) := by
    rw [discovery_of_isAddress isAddress, readDiscovery_nodes]
  have unreached : afterAll "ops" [⟨.request (.resource nodeKind), .noNetwork⟩] = start "ops" := by
    have failed : discovery nodeKind .noNetwork = readDiscovery nodeKind .noNetwork :=
      discovery_of_isAddress isAddress .noNetwork
    rw [afterAll, List.foldl_cons, List.foldl_nil, visit_failed rfl failed]
  refine ⟨pinned, ⟨_, [_], [_], rfl, ?_⟩, visits_keep_discoveries "ops" coreVisits pinned⟩
  rw [unreached, discovers_iff]
  exact ⟨rfl, told⟩

end Connection

end ClusterCache
