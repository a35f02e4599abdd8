import ClusterCache.Connection.Basic

/-!
# What comes of exchanges

A request is answered from memory, cannot be built, or is sent. What an answer reports as having
gone wrong is classified by what the server replied: a lost connection as such wherever it happens,
and a refusal by its code only where a kind is looked up or an object is replaced.
-/

namespace ClusterCache

/-! ## Building requests -/

theorem HttpRequest.target_of_build {method : HttpMethod} {target : String} {body : Option Json}
    {request : HttpRequest} (built : HttpRequest.build method target body = .ok request) :
    request.target = String.ofList (Uri.sentPart target.toList) := by
  unfold build at built
  split at built <;> cases built
  rfl

theorem HttpRequest.malformed_of_build {method : HttpMethod} {target : String} {body : Option Json}
    {failure : RequestFailure} (unbuilt : HttpRequest.build method target body = .error failure) :
    failure = .malformed := by
  unfold build at unbuilt
  split at unbuilt <;> cases unbuilt
  rfl

theorem Collection.malformed_of_objectPath {collection : Collection} {name : String}
    {failure : RequestFailure} (unnamed : collection.objectPath name = .error failure) :
    failure = .malformed := by
  unfold objectPath at unnamed
  split at unnamed <;> cases unnamed
  rfl

namespace Connection

section Requests

variable {connection : Connection}

theorem malformed_of_path {collection : Collection} {name mark : String} {method : HttpMethod}
    {body : Option Json} {failure : RequestFailure}
    (unbuilt : (collection.objectPath name).bind
      (fun path => HttpRequest.build method (path ++ mark) body) = .error failure) :
    failure = .malformed := by
  cases named : collection.objectPath name with
  | error problem =>
      rw [named] at unbuilt
      cases unbuilt
      exact Collection.malformed_of_objectPath named
  | ok path =>
      rw [named] at unbuilt
      exact HttpRequest.malformed_of_build unbuilt

/-- To read an object is to build a request like those that write one. -/
theorem httpRequest_get (resource : ApiResource) (ns name : String) :
    connection.httpRequest (.get resource ns name) =
      ((connection.collection resource ns).objectPath name).bind
        fun path => HttpRequest.build .get (path ++ "") none := by
  simp only [String.append_empty]
  rfl

theorem malformed_of_httpRequest {request : Request} {failure : RequestFailure}
    (unbuilt : connection.httpRequest request = .error failure) : failure = .malformed := by
  cases request with
  | resource kind | review access | watch resource ns =>
      exact HttpRequest.malformed_of_build unbuilt
  | replace resource object | delete resource ns name => exact malformed_of_path unbuilt
  | get resource ns name =>
      rw [httpRequest_get] at unbuilt
      exact malformed_of_path unbuilt

/-- How the exchange of a request begins. -/
inductive Begins (connection : Connection) : Request → Exchange → Prop
  | remembers (kind : GroupVersionKind) (found : ApiResource × ResourceScope)
      (known : connection.discovered.get? kind = some found) :
      Begins connection (.resource kind) (.answered (.resource (.ok found.1)))
  | opens (resource : ApiResource) (ns : Option String) :
      Begins connection (.watch resource ns) (.answered (.written (.ok ())))
  | fails (request : Request) :
      Begins connection request (.answered (request.failed (.request .malformed)))
  | asks (request : Request) (asked : HttpRequest)
      (noWatch : ∀ resource ns, request ≠ .watch resource ns)
      (built : connection.httpRequest request = .ok asked) :
      Begins connection request (.asks asked)

theorem begins (connection : Connection) (request : Request) :
    connection.Begins request (connection.begin request) := by
  cases built : connection.httpRequest request with
  | ok asked =>
      cases request with
      | resource kind =>
          cases known : connection.discovered.get? kind with
          | some found =>
              simp only [begin, known]
              exact .remembers kind found known
          | none =>
              simp only [begin, known, built]
              exact .asks _ asked (by simp) built
      | watch resource ns => exact .opens resource ns
      | _ =>
          simp only [begin, built]
          exact .asks _ asked (by simp) built
  | error failure =>
      obtain rfl := malformed_of_httpRequest built
      cases request with
      | resource kind =>
          cases known : connection.discovered.get? kind with
          | some found =>
              simp only [begin, known]
              exact .remembers kind found known
          | none =>
              simp only [begin, known, built]
              exact .fails _
      | watch resource ns => exact .opens resource ns
      | _ =>
          simp only [begin, built]
          exact .fails _

end Requests

end Connection

/-! ## What replies mean -/

/-- The server refuses the request, and answers why. -/
def HttpReply.Refuses (reply : HttpReply) (answer : Status) : Prop :=
  reply.accepted = .error (.refused answer)

def HttpReply.IsLost : HttpReply → Prop
  | .answered _ _ => False
  | .failed _ _ => True

def RequestFailure.IsUnreached : RequestFailure → Prop
  | .unreached _ _ => True
  | _ => False

namespace HttpReply

variable {α : Type} {reply : HttpReply} {decoder : Json.Decoder α} {failure : RequestFailure}
  {answer : Status}

/-- A reply that cannot be used was lost or refuses the request, or it is not understood. -/
theorem decoded_eq_error_iff : reply.decoded decoder = .error failure ↔
    reply.accepted = .error failure ∨
      (failure = .malformed ∧ ∃ body problem, reply.accepted = .ok body ∧
        decoder.decode body.toList = .error problem) := by
  unfold decoded
  cases reply.accepted with
  | error other => simp [Except.bind]
  | ok body =>
      change (decoder.decode body.toList).mapError (fun _ => .malformed) = .error failure ↔ _
      cases read : decoder.decode body.toList with
      | ok value =>
          change Except.ok value = Except.error failure ↔ _
          simp [read]
      | error problem =>
          change Except.error RequestFailure.malformed = Except.error failure ↔ _
          simp [read, eq_comm]

theorem decoded_eq_refused_iff :
    reply.decoded decoder = .error (.refused answer) ↔ reply.Refuses answer := by
  simp [decoded_eq_error_iff, Refuses]

/-- A reply is lost exactly if its failure says that the server was not reached. -/
theorem isUnreached_iff_of_decoded (failed : reply.decoded decoder = .error failure) :
    failure.IsUnreached ↔ reply.IsLost := by
  cases reply with
  | failed reason below =>
      cases failed
      simp [RequestFailure.IsUnreached, IsLost]
  | answered status body =>
      simp only [IsLost, iff_false]
      rcases decoded_eq_error_iff.1 failed with refused | ⟨rfl, _⟩
      · simp only [accepted] at refused
        split at refused
        · cases refused
          exact id
        · cases refused
      · exact id

end HttpReply

/-! ## What answers report -/

/-- What the answer reports as having gone wrong. -/
def Answer.error? : Answer → Option Error
  | .resource (.error error) | .review (.error error) | .object (.error error)
  | .written (.error error) => some error
  | _ => none

/-- How an error that is reported after the reply to a request is classified. -/
structure Sorts (request : Request) (reply : HttpReply) (error : Error) : Prop where
  conflict : error.category = .conflict ↔
    (∃ resource object, request = .replace resource object) ∧
      ∃ answer, reply.Refuses answer ∧ answer.code = 409
  transport : error.category = .transport ↔ reply.IsLost
  present : error.category ≠ .notFound

/-- The server says that it does not serve the kind. -/
def RequestFailure.DeniesKind : RequestFailure → Prop
  | .missingKind _ => True
  | .refused answer => answer.code = 404
  | _ => False

theorem Error.category_request_eq_transport_iff (failure : RequestFailure) :
    (Error.request failure).category = .transport ↔ failure.IsUnreached := by
  cases failure <;> simp [category, RequestFailure.IsUnreached]

theorem Error.category_request_eq (failure : RequestFailure) :
    (Error.request failure).category = .transport ∨ (Error.request failure).category = .other := by
  cases failure <;> simp [category]

namespace Connection

theorem category_discoveryError_iff (kind : GroupVersionKind) (failure : RequestFailure) :
    (discoveryError kind failure).category = .mapping ↔ failure.DeniesKind := by
  cases failure with
  | refused answer =>
      simp only [discoveryError, RequestFailure.DeniesKind]
      by_cases missing : answer.code = 404 <;> simp [missing, Error.category]
  | _ => simp [discoveryError, RequestFailure.DeniesKind, Error.category]

theorem discoveryError_of_not_deniesKind {failure : RequestFailure}
    (other : ¬ failure.DeniesKind) (kind : GroupVersionKind) :
    discoveryError kind failure = .request failure := by
  cases failure with
  | refused answer => exact if_neg other
  | missingKind name => exact absurd trivial other
  | _ => rfl

section Replies

variable {request : Request} {reply : HttpReply} {failure : RequestFailure} {error : Error}

/-- A failure that is passed on as it is. -/
theorem sorts_request (unreached : failure.IsUnreached ↔ reply.IsLost)
    (other : ∀ resource object answer, request = .replace resource object → reply.Refuses answer →
      answer.code ≠ 409) : Sorts request reply (.request failure) where
  conflict := by
    constructor
    · intro isConflict
      rcases Error.category_request_eq failure with same | same <;>
        · rw [same] at isConflict
          cases isConflict
    · rintro ⟨⟨resource, object, rfl⟩, answer, refuses, isConflict⟩
      exact absurd isConflict (other resource object answer rfl refuses)
  transport := (Error.category_request_eq_transport_iff failure).trans unreached
  present := by
    rcases Error.category_request_eq failure with same | same <;>
      · rw [same]
        nofun

/-- Where nothing is replaced, a failure to use the reply is passed on. -/
theorem sorts_of_decoded {α : Type} {decoder : Json.Decoder α}
    (read : reply.decoded decoder = .error failure)
    (noReplacement : ∀ resource object, request ≠ .replace resource object) :
    Sorts request reply (.request failure) :=
  sorts_request (HttpReply.isUnreached_iff_of_decoded read)
    fun resource object _ isReplacement => absurd isReplacement (noReplacement resource object)

theorem isUnreached_iff_of_readDiscovery {kind : GroupVersionKind}
    (failed : readDiscovery kind reply = .error failure) : failure.IsUnreached ↔ reply.IsLost := by
  unfold readDiscovery at failed
  cases read : reply.decoded ResourceList.decoder with
  | error other =>
      rw [read] at failed
      cases failed
      exact HttpReply.isUnreached_iff_of_decoded read
  | ok list =>
      -- A server that lists its resources was reached.
      have reached : ¬ reply.IsLost := by
        cases reply with
        | answered status body => exact id
        | failed reason below => cases read
      rw [read] at failed
      simp only [Except.bind] at failed
      split at failed <;> cases failed
      simp [RequestFailure.IsUnreached, reached]

theorem sorts_discoveryError {kind : GroupVersionKind}
    (unreached : failure.IsUnreached ↔ reply.IsLost) :
    Sorts (.resource kind) reply (discoveryError kind failure) := by
  by_cases denies : failure.DeniesKind
  · have isMapping := (category_discoveryError_iff kind failure).2 denies
    have notLost : ¬ reply.IsLost := by
      rw [← unreached]
      cases failure with
      | unreached reason below => cases denies
      | _ => exact id
    exact ⟨by simp [isMapping], by simp [isMapping, notLost], by simp [isMapping]⟩
  · rw [discoveryError_of_not_deniesKind denies]
    exact sorts_request unreached (by simp)

theorem readReplaced_of_conflict {answer : Status} (refuses : reply.Refuses answer)
    (isConflict : answer.code = 409) (resource : ApiResource) (object : Object) :
    readReplaced resource object reply =
      .error (.conflict (resource.plural ++ "/" ++ object.nsOrEmpty ++ "/" ++ object.name)
        answer.message) := by
  rw [readReplaced, HttpReply.decoded_eq_refused_iff.2 refuses]
  exact congrArg Except.error (if_pos isConflict)

theorem readReplaced_of_other (read : reply.decoded Object.decoder = .error failure)
    (other : ∀ answer, failure = .refused answer → answer.code ≠ 409) (resource : ApiResource)
    (object : Object) : readReplaced resource object reply = .error (.request failure) := by
  rw [readReplaced, read]
  cases failure with
  | refused answer => exact congrArg Except.error (if_neg (other answer rfl))
  | _ => rfl

/-- An object is missing if and only if the server gives this reason. -/
theorem readObject_eq_none_iff : readObject reply = .ok none ↔
    ∃ answer, reply.Refuses answer ∧ answer.reason = "NotFound" := by
  constructor
  · intro missing
    unfold readObject at missing
    split at missing
    · cases missing
    · split at missing
      · rename_i answer read
        split at missing
        · rename_i isMissing
          exact ⟨answer, HttpReply.decoded_eq_refused_iff.1 read, isMissing⟩
        · cases missing
      · cases missing
  · rintro ⟨answer, refuses, isMissing⟩
    simp only [readObject, HttpReply.decoded_eq_refused_iff.2 refuses, isMissing, if_true]

/-- Whatever the answer after a reply reports is sorted by the reply. -/
theorem sorts_conclude (connection : Connection)
    (failed : (connection.conclude request reply).2.error? = some error) :
    Sorts request reply error := by
  cases request with
  | resource kind =>
      simp only [conclude, discover] at failed
      cases read : readDiscovery kind reply with
      | ok found =>
          rw [read] at failed
          cases failed
      | error failure =>
          rw [read] at failed
          cases failed
          exact sorts_discoveryError (isUnreached_iff_of_readDiscovery read)
  | review access =>
      simp only [conclude, readReview] at failed
      cases read : reply.decoded review with
      | ok allowed =>
          rw [read] at failed
          cases failed
      | error failure =>
          rw [read] at failed
          cases failed
          exact sorts_of_decoded read (by simp)
  | watch resource ns => cases failed
  | get resource ns name =>
      simp only [conclude, readObject] at failed
      cases read : reply.decoded Object.decoder with
      | ok object =>
          rw [read] at failed
          cases failed
      | error failure =>
          have sorted : Sorts (.get resource ns name) reply (.request failure) :=
            sorts_of_decoded read (by simp)
          rw [read] at failed
          dsimp only at failed
          split at failed
          · split at failed <;> cases failed
            exact sorted
          · cases failed
            exact sorted
  | replace resource object =>
      simp only [conclude] at failed
      cases read : reply.decoded Object.decoder with
      | ok written =>
          rw [readReplaced, read] at failed
          cases failed
      | error failure =>
          by_cases isConflict : ∃ answer, failure = .refused answer ∧ answer.code = 409
          · obtain ⟨answer, rfl, code⟩ := isConflict
            have refuses := HttpReply.decoded_eq_refused_iff.1 read
            have notLost : ¬ reply.IsLost := (HttpReply.isUnreached_iff_of_decoded read).2
            rw [readReplaced_of_conflict refuses code] at failed
            cases failed
            exact ⟨by simpa [Error.category] using ⟨answer, refuses, code⟩,
              by simpa [Error.category] using notLost, by simp [Error.category]⟩
          · have other : ∀ answer, failure = .refused answer → answer.code ≠ 409 :=
              fun answer same code => isConflict ⟨answer, same, code⟩
            rw [readReplaced_of_other read other] at failed
            cases failed
            refine sorts_request (HttpReply.isUnreached_iff_of_decoded read) ?_
            rintro _ _ answer - refuses
            have same := read.symm.trans (HttpReply.decoded_eq_refused_iff.2 refuses)
            exact other answer (Except.error.inj same)
  | delete resource ns name =>
      simp only [conclude, readDeletion] at failed
      cases read : reply.decoded deletion with
      | ok done =>
          rw [read] at failed
          cases failed
      | error failure =>
          rw [read] at failed
          cases failed
          exact sorts_of_decoded read (by simp)

end Replies

/-! ## Whole exchanges -/

/-- The answer to a request, where the server replies as given if it is asked. -/
def answer (connection : Connection) (request : Request) (reply : HttpReply) : Answer :=
  (Id.run (connection.perform (fun _ => pure reply) request)).2

def Sends (connection : Connection) (request : Request) : Prop :=
  ∃ asked, connection.begin request = .asks asked

section Exchanges

variable {connection : Connection} {request : Request} {reply : HttpReply} {error : Error}

theorem answer_of_sends (sends : connection.Sends request) :
    connection.answer request reply = (connection.conclude request reply).2 := by
  obtain ⟨asked, asks⟩ := sends
  simp only [answer, perform, asks]
  rfl

theorem answer_of_answered {answered : Answer}
    (begun : connection.begin request = .answered answered) :
    connection.answer request reply = answered := by
  simp only [answer, perform, begun]
  rfl

/-- An error is sorted by the reply of the server, or the server was not asked at all. -/
theorem sorts_of_answer (failed : (connection.answer request reply).error? = some error) :
    (connection.Sends request ∧ Sorts request reply error) ∨
      (¬ connection.Sends request ∧ error.category = .other) := by
  cases begun : connection.begin request with
  | asks asked =>
      have sends : connection.Sends request := ⟨asked, begun⟩
      rw [answer_of_sends sends] at failed
      exact Or.inl ⟨sends, sorts_conclude connection failed⟩
  | answered answered =>
      have unasked : ¬ connection.Sends request := by
        rintro ⟨asked, asks⟩
        rw [begun] at asks
        cases asks
      have begins := connection.begins request
      rw [begun] at begins
      rw [answer_of_answered begun] at failed
      refine Or.inr ⟨unasked, ?_⟩
      cases begins with
      | remembers kind found known => cases failed
      | opens resource ns => cases failed
      | fails request =>
          cases request <;> cases failed <;> rfl

/-- Whatever is sent fails if the server is not reached, and the failure is passed on. -/
theorem answer_of_failed (sends : connection.Sends request) (reason : String)
    (below : List String) :
    connection.answer request (.failed reason below) =
      request.failed (.request (.unreached reason below)) := by
  rw [answer_of_sends sends]
  obtain ⟨asked, asks⟩ := sends
  cases request with
  | watch resource ns => cases asks
  | _ => rfl

theorem answer_replace_of_conflict {resource : ApiResource} {object : Object} {answer : Status}
    (sends : connection.Sends (.replace resource object)) (refuses : reply.Refuses answer)
    (isConflict : answer.code = 409) :
    connection.answer (.replace resource object) reply =
      .written (.error (.conflict
        (resource.plural ++ "/" ++ object.nsOrEmpty ++ "/" ++ object.name) answer.message)) := by
  simp only [answer_of_sends sends, conclude, readReplaced_of_conflict refuses isConflict]
  rfl

theorem answer_replace_of_refuses {resource : ApiResource} {object : Object} {answer : Status}
    (sends : connection.Sends (.replace resource object)) (refuses : reply.Refuses answer)
    (other : answer.code ≠ 409) :
    connection.answer (.replace resource object) reply =
      .written (.error (.request (.refused answer))) := by
  have read : reply.decoded Object.decoder = .error (.refused answer) :=
    HttpReply.decoded_eq_refused_iff.2 refuses
  have noConflict : ∀ other, RequestFailure.refused answer = .refused other → other.code ≠ 409 := by
    rintro _ ⟨⟩
    exact other
  simp only [answer_of_sends sends, conclude, readReplaced_of_other read noConflict]
  rfl

theorem answer_delete_of_refuses {resource : ApiResource} {ns name : String} {answer : Status}
    (sends : connection.Sends (.delete resource ns name)) (refuses : reply.Refuses answer) :
    connection.answer (.delete resource ns name) reply =
      .written (.error (.request (.refused answer))) := by
  simp only [answer_of_sends sends, conclude, readDeletion,
    HttpReply.decoded_eq_refused_iff.2 refuses]
  rfl

/-- An object is reported to be missing if and only if the server says so. -/
theorem answer_get_eq_none_iff {resource : ApiResource} {ns name : String} :
    connection.answer (.get resource ns name) reply = .object (.ok none) ↔
      connection.Sends (.get resource ns name) ∧
        ∃ answer, reply.Refuses answer ∧ answer.reason = "NotFound" := by
  rw [← readObject_eq_none_iff]
  cases begun : connection.begin (.get resource ns name) with
  | asks asked =>
      have sends : connection.Sends (.get resource ns name) := ⟨asked, begun⟩
      simp only [answer_of_sends sends, conclude, Answer.object.injEq, sends, true_and]
  | answered answered =>
      have begins := connection.begins (.get resource ns name)
      rw [begun] at begins
      rw [answer_of_answered begun]
      cases begins with
      | fails _ => simp [Request.failed, Sends, begun]

end Exchanges

end Connection

end ClusterCache
