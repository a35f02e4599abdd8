import ClusterCache.Proofs.Connection.Exchanges
import ClusterCache.Proofs.System.Failures
import ClusterCache.Proofs.System.Requests
import ClusterCache.Proofs.System.Updates

/-!
# How replies classify failures

Behind the calls of a system there is a server: what a call asks on a connection is answered from
memory, or by what the server replies. Main statement: an operation on objects fails with a conflict
exactly if the server refuses a replacement with the code of a conflict, because something is
missing exactly if the server says so when the object is read, and in transport exactly if the
server is not reached. Other refusals of writes are passed on as they are, also if what is to be
written is gone.
-/

namespace ClusterCache

/-! ## Which requests are posed for what -/

/-- For the purpose the operation poses the request. -/
inductive Operation.Poses : Operation → Purpose → Request → Prop
  | locates (operation : Operation) (kind : GroupVersionKind) :
      Poses operation .locate (.resource kind)
  | reviews (operation : Operation) (access : AccessKey) (flight : FlightId) :
      Poses operation (.review access flight) (.review access)
  | maps (operation : Operation) (kind : GroupVersionKind) : Poses operation .map (.resource kind)
  | forgets (kinds : List GroupVersionKind) (kind : GroupVersionKind)
      (rest : List GroupVersionKind) : Poses (.unwatch kinds) (.forget kind rest) (.resource kind)
  | reads (key : Key) (change : Object → Except Error Object) (resource : ApiResource)
      (ns name : String) : Poses (.update key change) (.read resource) (.get resource ns name)
  | replaces (key : Key) (change : Object → Except Error Object) (resource : ApiResource)
      (object : Object) : Poses (.update key change) .write (.replace resource object)
  | deletes (key : Key) (resource : ApiResource) (ns name : String) :
      Poses (.delete key) .write (.delete resource ns name)

theorem Operation.Poses.write_of_replace {operation : Operation} {purpose : Purpose}
    {resource : ApiResource} {object : Object}
    (poses : operation.Poses purpose (.replace resource object)) : purpose = .write := by
  cases poses
  rfl

theorem Operation.Poses.write_of_delete {operation : Operation} {purpose : Purpose}
    {resource : ApiResource} {ns name : String}
    (poses : operation.Poses purpose (.delete resource ns name)) : purpose = .write := by
  cases poses
  rfl

/-- If the call asks, it asks what its operation poses. -/
def Stage.IsPosed (operation : Operation) : Stage → Prop
  | .asking _ request purpose => operation.Poses purpose request
  | _ => True

theorem Store.Goes.isPosed {store : Store} {call : CallId} {operation : Operation} {move : Move}
    {stage : Stage} {next : Store × Stage} (goes : store.Goes call operation move stage next)
    (posed : stage.IsPosed operation) : next.2.IsPosed operation := by
  cases goes with
  | stays _ _ => exact posed
  | asks _ asks _ =>
      cases asks with
      | locates key verb demand => exact .locates operation _
      | reviews stage access flight => exact .reviews operation access flight
      | maps stage key verb need named => exact .maps operation _
      | forgets kind rest unwatches =>
          rw [unwatches]
          exact .forgets _ kind rest
      | forgetsNext client request last kind rest =>
          cases posed with
          | forgets kinds last rest => exact .forgets kinds kind _
      | deletes client request resource key deletes =>
          rw [deletes]
          exact .deletes key resource _ _
      | reads client request resource key change updates =>
          rw [updates]
          exact .reads key change resource _ _
      | replaces client request resource key change updates object written answered changed =>
          rw [updates]
          exact .replaces key change resource written
  | _ => trivial

/-- The call has ended with an error of the category. -/
def Stage.FailsAs (stage : Stage) (category : Error.Category) : Prop :=
  ∃ error, stage = .finished (.error error) ∧ error.category = category

/-! ## Systems behind which there is a server -/

/-- What happens to a system whose calls are answered by a server. -/
inductive ServerMove
  | move (move : Move)
  /-- A call is answered on a connection, in whatever state this was when the call asked. The server
  replies as given, if it is asked. -/
  | reply (call : CallId) (connection : Connection) (reply : HttpReply)

namespace System

/-- The answer to what the call asks. A call that asks nothing ignores it. -/
def replied (system : System) (call : CallId) (connection : Connection) (reply : HttpReply) :
    Answer :=
  match system.stood call with
  | .asking _ request _ => connection.answer request reply
  | _ => .written (.ok ())

/-- The move that the system makes. -/
def moveFor (system : System) : ServerMove → Move
  | .move move => move
  | .reply call connection reply => .answer call (system.replied call connection reply)

/-- The moves that the system makes, one after the other. -/
def movesFor : System → List ServerMove → List Move
  | _, [] => []
  | system, event :: rest =>
      system.moveFor event :: (system.apply (system.moveFor event)).movesFor rest

/-- What becomes of the system. -/
def serve (system : System) (events : List ServerMove) : System :=
  system.run (system.movesFor events)

/-- The event brings the reply of the server to the request that the call has sent. -/
def Gets (system : System) (event : ServerMove) (call : CallId) (request : Request)
    (reply : HttpReply) : Prop :=
  ∃ connection client purpose, event = .reply call connection reply ∧
    system.stood call = .asking client request purpose ∧ connection.Sends request

/-- The server has replied to the request that the call had sent. -/
def Replied (system : System) (events : List ServerMove) (call : CallId) (request : Request)
    (reply : HttpReply) : Prop :=
  ∃ first event rest, events = first ++ event :: rest ∧
    (system.serve first).Gets event call request reply

section Serving

variable {system : System}

theorem movesFor_append (first rest : List ServerMove) :
    system.movesFor (first ++ rest) =
      system.movesFor first ++ (system.serve first).movesFor rest := by
  induction first generalizing system with
  | nil => rfl
  | cons event first inductionHypothesis =>
      simp only [List.cons_append, movesFor, inductionHypothesis, serve, run_cons]

theorem serve_append (first rest : List ServerMove) :
    system.serve (first ++ rest) = (system.serve first).serve rest := by
  rw [serve, movesFor_append, run_append]
  rfl

/-- Whoever asks is answered, and the system goes on from there. -/
theorem movesFor_reply {call : CallId} {client : ClientId} {request : Request} {purpose : Purpose}
    {connection : Connection} {reply : HttpReply} {answer : Answer} {rest : List ServerMove}
    (stands : system.stood call = .asking client request purpose)
    (answered : connection.answer request reply = answer) :
    system.movesFor (.reply call connection reply :: rest) =
      .answer call answer :: (system.apply (.answer call answer)).movesFor rest := by
  simp only [movesFor, moveFor, replied, stands, answered]

/-- A point in the moves of the system is a point in what happens to it. -/
theorem split_of_movesFor {events : List ServerMove} {before after : List Move} {move : Move}
    (split : system.movesFor events = before ++ move :: after) :
    ∃ first event rest, events = first ++ event :: rest ∧ system.movesFor first = before ∧
      (system.serve first).moveFor event = move := by
  induction events generalizing system before with
  | nil =>
      rw [movesFor] at split
      exact absurd split.symm (by simp)
  | cons event events inductionHypothesis =>
      cases before with
      | nil =>
          obtain ⟨same, -⟩ := List.cons.inj split
          exact ⟨[], event, events, rfl, rfl, same⟩
      | cons earlier before =>
          obtain ⟨same, split⟩ := List.cons.inj split
          obtain ⟨first, later, rest, rfl, isBefore, isMove⟩ := inductionHypothesis split
          refine ⟨event :: first, later, rest, rfl, ?_, ?_⟩
          · simp only [movesFor, same, ← isBefore]
          · simpa only [serve, movesFor, run_cons] using isMove

end Serving

/-! ## Where faults come from -/

/-- Where a fault that a call meets by the event comes from. -/
structure Traced (system : System) (event : ServerMove) (call : CallId) (fault : Error) : Prop where
  conflict : fault.category = .conflict → ∃ resource object reply answer,
    system.Gets event call (.replace resource object) reply ∧ reply.Refuses answer ∧
      answer.code = 409
  notFound : fault.category = .notFound → ∃ resource ns name reply answer,
    system.Gets event call (.get resource ns name) reply ∧ reply.Refuses answer ∧
      answer.reason = "NotFound"
  transport : fault.category = .transport → ∃ request reply,
    (∀ access, request ≠ .review access) ∧ system.Gets event call request reply ∧ reply.IsLost

section Faults

variable {system : System} {event : ServerMove} {call : CallId} {operation : Operation} {key : Key}
  {verb : Verb} {fault error : Error} {client : ClientId} {request : Request} {purpose : Purpose}
  {connection : Connection} {reply : HttpReply}

/-- Whatever an answer reports, unless it is about a review, comes from the reply. -/
theorem traced_of_answer (isReply : event = .reply call connection reply)
    (stands : system.stood call = .asking client request purpose)
    (noReview : ∀ access, request ≠ .review access)
    (failed : (connection.answer request reply).error? = some error) :
    system.Traced event call error := by
  rcases Connection.sorts_of_answer failed with ⟨sends, sorts⟩ | ⟨_, other⟩
  · have gets : system.Gets event call request reply :=
      ⟨connection, client, purpose, isReply, stands, sends⟩
    refine ⟨fun isConflict => ?_, fun isMissing => absurd isMissing sorts.present,
      fun isLost => ⟨request, reply, noReview, gets, sorts.transport.1 isLost⟩⟩
    obtain ⟨⟨resource, object, rfl⟩, answer, refuses, code⟩ := sorts.conflict.1 isConflict
    exact ⟨resource, object, reply, answer, gets, refuses, code⟩
  · exact ⟨by simp [other], by simp [other], by simp [other]⟩

/-- An answer to a call whose answers come from the server is a reply. -/
theorem reply_of_moveFor {answer : Answer} (relayed : ∀ answer, event ≠ .move (.answer call answer))
    (isAnswer : system.moveFor event = .answer call answer)
    (stands : system.stood call = .asking client request purpose) :
    ∃ connection reply, event = .reply call connection reply ∧
      connection.answer request reply = answer := by
  cases event with
  | move move => exact absurd (congrArg ServerMove.move isAnswer) (relayed answer)
  | reply other connection reply =>
      obtain ⟨rfl, same⟩ := Move.answer.inj isAnswer
      refine ⟨connection, reply, rfl, ?_⟩
      rw [← same, replied, stands]

theorem Meets.traced (met : system.Meets (system.moveFor event) call operation key verb fault)
    (posed : (system.stood call).IsPosed operation)
    (relayed : ∀ answer, event ≠ .move (.answer call answer))
    (succeeds : ∀ key change, operation = .update key change →
      ∀ object, ∃ changed, change object = .ok changed) :
    system.Traced event call fault := by
  obtain ⟨_, faulty⟩ := met
  generalize stands : system.stood call = stage at faulty posed
  generalize isMove : system.moveFor event = move at faulty
  cases faulty with
  | kindless move admitted noKind => exact ⟨nofun, nofun, nofun⟩
  | unreviewed client request access flight error => exact ⟨nofun, nofun, nofun⟩
  | denied stage move access decides => exact ⟨nofun, nofun, nofun⟩
  | nameless stage move access decides unnamed => exact ⟨nofun, nofun, nofun⟩
  | unlocated client request error | unmapped client request error
  | unwritten client request error | unread client request resource error =>
      obtain ⟨connection, reply, isReply, same⟩ := reply_of_moveFor relayed isMove stands
      have noReview : ∀ access, request ≠ .review access := by
        cases posed <;> nofun
      exact traced_of_answer isReply stands noReview (by rw [same]; rfl)
  | absent change updates client request resource =>
      obtain ⟨connection, reply, isReply, same⟩ := reply_of_moveFor relayed isMove stands
      refine ⟨nofun, fun _ => ?_, nofun⟩
      cases posed with
      | reads key change resource ns name =>
          obtain ⟨sends, answer, refuses, reason⟩ := Connection.answer_get_eq_none_iff.1 same
          exact ⟨resource, ns, name, reply, answer,
            ⟨connection, client, _, isReply, stands, sends⟩, refuses, reason⟩
  | unchanged change updates client request resource object error fails =>
      obtain ⟨changed, succeeded⟩ := succeeds key change updates object
      rw [fails] at succeeded
      cases succeeded

/-- By the reply to what a call has sent, the call is answered. -/
theorem Gets.answers (gets : system.Gets event call request reply) :
    ∃ (connection : Connection) (client : ClientId) (purpose : Purpose),
      connection.Sends request ∧ system.stood call = .asking client request purpose ∧
      system.moveFor event = .answer call (connection.answer request reply) ∧
      system.isMoveOf call (system.moveFor event) = true := by
  obtain ⟨connection, client, purpose, rfl, stands, sends⟩ := gets
  obtain ⟨operation, called⟩ := called_of_stood stands nofun
  refine ⟨connection, client, purpose, sends, stands, ?_, isMoveOf_answer called _⟩
  simp only [moveFor, replied, stands]

/-- A write that is refused meets what the answer reports. -/
theorem Gets.unwritten (gets : system.Gets event call request reply)
    (posed : (system.stood call).IsPosed operation)
    (isWrite : ∀ purpose, operation.Poses purpose request → purpose = .write)
    (answered : ∀ connection : Connection, connection.Sends request →
      connection.answer request reply = .written (.error error)) :
    system.Meets (system.moveFor event) call operation key verb error := by
  obtain ⟨connection, client, purpose, sends, stands, isMove, own⟩ := gets.answers
  rw [stands] at posed
  refine ⟨own, ?_⟩
  rw [isMove, stands, answered connection sends, isWrite purpose posed]
  exact .unwritten client request error

theorem Gets.absent {resource : ApiResource} {ns name : String} {answer : Status}
    (gets : system.Gets event call (.get resource ns name) reply)
    (posed : (system.stood call).IsPosed operation) (need : operation.need? = some (key, verb))
    (refuses : reply.Refuses answer) (reason : answer.reason = "NotFound") :
    system.Meets (system.moveFor event) call operation key verb (.notFound key.text) := by
  obtain ⟨connection, client, purpose, sends, stands, isMove, own⟩ := gets.answers
  have missing := Connection.answer_get_eq_none_iff.2 ⟨sends, answer, refuses, reason⟩
  rw [stands] at posed
  refine ⟨own, ?_⟩
  rw [isMove, stands, missing]
  cases posed with
  | reads _ change =>
      cases need
      exact .absent change rfl client _ _

theorem Gets.lost (gets : system.Gets event call request reply)
    (posed : (system.stood call).IsPosed operation) (need : operation.need? = some (key, verb))
    (noReview : ∀ access, request ≠ .review access) (isLost : reply.IsLost) :
    ∃ reason below, system.Meets (system.moveFor event) call operation key verb
      (.request (.unreached reason below)) := by
  obtain ⟨connection, client, purpose, sends, stands, isMove, own⟩ := gets.answers
  cases reply with
  | answered status body => exact isLost.elim
  | failed reason below =>
      refine ⟨reason, below, own, ?_⟩
      rw [stands] at posed
      rw [isMove, stands, Connection.answer_of_failed sends]
      cases posed with
      | locates operation kind => exact .unlocated client _ _
      | reviews operation access flight => exact absurd rfl (noReview access)
      | maps operation kind => exact .unmapped client _ _
      | forgets kinds kind rest => cases need
      | reads key change resource ns name => exact .unread client _ resource _
      | replaces key change resource object => exact .unwritten client _ _
      | deletes key resource ns name => exact .unwritten client _ _

end Faults

/-! ## Runs -/

section Run

variable {config : StoreConfig} {client : ClientId} {events : List ServerMove} {call : CallId}
  {operation : Operation} {stage : Stage} {key : Key} {verb : Verb} {result : Error}

theorem movesFor_append_cons (first rest : List ServerMove) (event : ServerMove) :
    (start config client).movesFor (first ++ event :: rest) =
      (start config client).movesFor first ++ ((start config client).serve first).moveFor event ::
        (((start config client).serve first).apply
          (((start config client).serve first).moveFor event)).movesFor rest := by
  rw [movesFor_append, movesFor]

/-- At every point of a run, what a call asks is posed by its operation. -/
theorem posed_serve
    (called : ((start config client).serve events).calls[call]? = some ⟨operation, stage⟩)
    {first rest : List ServerMove} {event : ServerMove} (split : events = first ++ event :: rest) :
    (((start config client).serve first).stood call).IsPosed operation := by
  cases before : ((start config client).serve first).calls[call]? with
  | none =>
      have arrives : ((start config client).serve first).stood call = .arriving := by
        simp [stood, stage?, before]
      rw [arrives]
      trivial
  | some current =>
      obtain ⟨later, calledLater⟩ := operation_run before
        (((start config client).serve first).movesFor (event :: rest))
      rw [split, serve_append, serve, calledLater] at called
      obtain ⟨rfl, _⟩ := Call.mk.inj (Option.some.inj called)
      rw [stood_of_calls before]
      exact stages_run (fun _ => trivial) Store.Goes.isPosed config client _ before

/-- An operation on objects has failed if and only if it met a fault by one of the events. -/
theorem failed_serve_iff
    (called : ((start config client).serve events).calls[call]? = some ⟨operation, stage⟩)
    (need : operation.need? = some (key, verb)) :
    stage = .finished (.error result) ↔
      ∃ first event rest fault, events = first ++ event :: rest ∧
        ((start config client).serve first).Meets
          (((start config client).serve first).moveFor event) call operation key verb fault ∧
        result = fault.returned key verb := by
  rw [failed_iff called need]
  constructor
  · rintro ⟨before, move, after, fault, split, met, same⟩
    obtain ⟨first, event, rest, isSplit, rfl, rfl⟩ := split_of_movesFor split
    exact ⟨first, event, rest, fault, isSplit, met, same⟩
  · rintro ⟨first, event, rest, fault, rfl, met, same⟩
    exact ⟨_, _, _, fault, movesFor_append_cons first rest event, met, same⟩

/-- Whoever has met a fault has failed with it. -/
theorem failed_of_meets
    (called : ((start config client).serve events).calls[call]? = some ⟨operation, stage⟩)
    (need : operation.need? = some (key, verb)) {first rest : List ServerMove}
    {event : ServerMove} {fault : Error} (split : events = first ++ event :: rest)
    (met : ((start config client).serve first).Meets
      (((start config client).serve first).moveFor event) call operation key verb fault) :
    stage = .finished (.error (fault.returned key verb)) :=
  (failed_serve_iff called need).2 ⟨first, event, rest, fault, split, met, rfl⟩

/-- A write that is refused fails with what the answer reports. -/
theorem failed_of_unwritten
    (called : ((start config client).serve events).calls[call]? = some ⟨operation, stage⟩)
    (need : operation.need? = some (key, verb)) {request : Request} {reply : HttpReply}
    {error : Error} (replied : (start config client).Replied events call request reply)
    (isWrite : ∀ purpose, operation.Poses purpose request → purpose = .write)
    (answered : ∀ connection : Connection, connection.Sends request →
      connection.answer request reply = .written (.error error)) :
    stage = .finished (.error (error.returned key verb)) := by
  obtain ⟨first, event, rest, split, gets⟩ := replied
  exact failed_of_meets called need split
    (gets.unwritten (posed_serve called split) isWrite answered)

/-- Who has got a reply to a request has posed it. -/
theorem poses_of_replied
    (called : ((start config client).serve events).calls[call]? = some ⟨operation, stage⟩)
    {request : Request} {reply : HttpReply}
    (replied : (start config client).Replied events call request reply) :
    ∃ purpose, operation.Poses purpose request := by
  obtain ⟨first, event, rest, split, connection, client, purpose, _, stands, _⟩ := replied
  have posed := posed_serve called split
  rw [stands] at posed
  exact ⟨purpose, posed⟩

section Sorting

variable (called : ((start config client).serve events).calls[call]? = some ⟨operation, stage⟩)
  (need : operation.need? = some (key, verb))
  (relayed : ∀ answer, .move (.answer call answer) ∉ events)
  (succeeds : ∀ key change, operation = .update key change →
    ∀ object, ∃ changed, change object = .ok changed)

include called need relayed succeeds

/-- A failed operation has met a fault of the same category, which comes from a reply. -/
theorem traced_of_failed (failed : stage = .finished (.error result)) :
    ∃ first event rest fault, events = first ++ event :: rest ∧
      ((start config client).serve first).Traced event call fault ∧
      fault.category = result.category := by
  obtain ⟨first, event, rest, fault, split, met, rfl⟩ := (failed_serve_iff called need).1 failed
  have relayedHere : ∀ answer, event ≠ .move (.answer call answer) := by
    rintro answer rfl
    exact relayed answer (by simp [split])
  exact ⟨first, event, rest, fault, split,
    met.traced (posed_serve called split) relayedHere succeeds,
    (fault.returnedAs_returned key verb).category.symm⟩

/-- A replacement is refused for a conflict if and only if the operation fails with one. -/
theorem conflict_iff :
    stage.FailsAs .conflict ↔
      ∃ resource object reply answer,
        (start config client).Replied events call (.replace resource object) reply ∧
          reply.Refuses answer ∧ answer.code = 409 := by
  constructor
  · rintro ⟨error, failed, isConflict⟩
    obtain ⟨first, event, rest, fault, split, comes, same⟩ :=
      traced_of_failed called need relayed succeeds failed
    obtain ⟨resource, object, reply, answer, gets, refused⟩ :=
      comes.conflict (same.trans isConflict)
    exact ⟨resource, object, reply, answer, ⟨first, event, rest, split, gets⟩, refused⟩
  · rintro ⟨resource, object, reply, answer, replied, refuses, code⟩
    have failed := failed_of_unwritten called need replied (fun _ poses => poses.write_of_replace)
      fun _ sends => Connection.answer_replace_of_conflict sends refuses code
    exact ⟨_, failed, rfl⟩

/-- An object is reported to be missing, when it is read, if and only if the operation fails for
that. -/
theorem notFound_iff :
    stage.FailsAs .notFound ↔
      ∃ resource ns name reply answer,
        (start config client).Replied events call (.get resource ns name) reply ∧
          reply.Refuses answer ∧ answer.reason = "NotFound" := by
  constructor
  · rintro ⟨error, failed, isMissing⟩
    obtain ⟨first, event, rest, fault, split, comes, same⟩ :=
      traced_of_failed called need relayed succeeds failed
    obtain ⟨resource, ns, name, reply, answer, gets, refused⟩ :=
      comes.notFound (same.trans isMissing)
    exact ⟨resource, ns, name, reply, answer, ⟨first, event, rest, split, gets⟩, refused⟩
  · rintro ⟨resource, ns, name, reply, answer, ⟨first, event, rest, split, gets⟩, refuses, reason⟩
    exact ⟨_, failed_of_meets called need split
      (gets.absent (posed_serve called split) need refuses reason), rfl⟩

/-- The server is not reached by something that the call sends, other than a review, if and only if
the operation fails for that. -/
theorem transport_iff :
    stage.FailsAs .transport ↔
      ∃ request reply, (∀ access, request ≠ .review access) ∧
        (start config client).Replied events call request reply ∧ reply.IsLost := by
  constructor
  · rintro ⟨error, failed, isTransport⟩
    obtain ⟨first, event, rest, fault, split, comes, same⟩ :=
      traced_of_failed called need relayed succeeds failed
    obtain ⟨request, reply, noReview, gets, isLost⟩ := comes.transport (same.trans isTransport)
    exact ⟨request, reply, noReview, ⟨first, event, rest, split, gets⟩, isLost⟩
  · rintro ⟨request, reply, noReview, ⟨first, event, rest, split, gets⟩, isLost⟩
    obtain ⟨reason, below, met⟩ := gets.lost (posed_serve called split) need noReview isLost
    exact ⟨_, failed_of_meets called need split met, rfl⟩

end Sorting

/-- How the failures of an operation that needs the verb on the key are sorted by the replies. -/
structure SortsFailures (system : System) (events : List ServerMove) (call : CallId)
    (operation : Operation) (key : Key) (verb : Verb) (stage : Stage) : Prop where
  conflict : stage.FailsAs .conflict ↔
    ∃ resource object reply answer,
      system.Replied events call (.replace resource object) reply ∧ reply.Refuses answer ∧
        answer.code = 409
  retryable : ∀ error, stage = .finished (.error error) → error.category = .conflict →
    error.isRetryable = true
  notFound : stage.FailsAs .notFound ↔
    ∃ resource ns name reply answer,
      system.Replied events call (.get resource ns name) reply ∧ reply.Refuses answer ∧
        answer.reason = "NotFound"
  transport : stage.FailsAs .transport ↔
    ∃ request reply, (∀ access, request ≠ .review access) ∧
      system.Replied events call request reply ∧ reply.IsLost
  /-- Nothing but a conflict is told apart when a write is refused. -/
  unreplaced : ∀ resource object reply answer,
    system.Replied events call (.replace resource object) reply → reply.Refuses answer →
    answer.code ≠ 409 →
    stage = .finished (.error
      (.context (verb.text ++ " " ++ key.text) (.request (.refused answer))))
  undeleted : ∀ resource ns name reply answer,
    system.Replied events call (.delete resource ns name) reply → reply.Refuses answer →
    stage = .finished (.error
      (.context (verb.text ++ " " ++ key.text) (.request (.refused answer))))
  deletes : operation = .delete key → ¬ stage.FailsAs .conflict ∧ ¬ stage.FailsAs .notFound

/-- Operations on objects, if their answers come from a server and changes do not fail, fail as the
replies of the server say. -/
theorem replies_sort_failures
    (called : ((start config client).serve events).calls[call]? = some ⟨operation, stage⟩)
    (need : operation.need? = some (key, verb))
    (relayed : ∀ answer, .move (.answer call answer) ∉ events)
    (succeeds : ∀ key change, operation = .update key change →
      ∀ object, ∃ changed, change object = .ok changed) :
    SortsFailures (start config client) events call operation key verb stage where
  conflict := conflict_iff called need relayed succeeds
  retryable error _ isConflict := by simp [Error.isRetryable, isConflict]
  notFound := notFound_iff called need relayed succeeds
  transport := transport_iff called need relayed succeeds
  unreplaced resource object reply answer replied refuses other :=
    failed_of_unwritten called need replied (fun _ poses => poses.write_of_replace) fun _ sends =>
      Connection.answer_replace_of_refuses sends refuses other
  undeleted resource ns name reply answer replied refuses :=
    failed_of_unwritten called need replied (fun _ poses => poses.write_of_delete) fun _ sends =>
      Connection.answer_delete_of_refuses sends refuses
  deletes isDelete := by
    constructor
    · intro failed
      obtain ⟨_, _, _, _, replied, _⟩ := (conflict_iff called need relayed succeeds).1 failed
      obtain ⟨purpose, poses⟩ := poses_of_replied called replied
      rw [isDelete] at poses
      cases poses
    · intro failed
      obtain ⟨_, _, _, _, _, replied, _⟩ := (notFound_iff called need relayed succeeds).1 failed
      obtain ⟨purpose, poses⟩ := poses_of_replied called replied
      rw [isDelete] at poses
      cases poses

end Run

/-! Settings that somebody else changes while they are restored, and settings that are not there to
be deleted. -/

/-- A connection that knows how settings are served. -/
def settingsConnection : Connection :=
  ⟨"team", Table.empty.insert settingsResource.servedKind (settingsResource, .namespaced)⟩

/-- An operation on settings that is permitted, and the replies to what it asks about them. -/
def settingsRun (operation : Operation) (verb : Verb) (replies : List HttpReply) :
    List ServerMove :=
  [.move (.presetDecision ⟨"team", "", "configmaps", verb.text⟩ true), .move (.begin operation),
    .reply 0 settingsConnection .noNetwork, .reply 0 settingsConnection .noNetwork] ++
    replies.map (.reply 0 settingsConnection)

/-- Writes settings as they were at first. -/
def restoreSettings : Operation := .update settingsKey fun _ => .ok settings

def settingsReply : HttpReply :=
  .answered 200 ("\x7b\"apiVersion\":\"v1\",\"kind\":\"ConfigMap\",\"metadata\":"
    ++ "\x7b\"name\":\"settings\",\"namespace\":\"team\",\"resourceVersion\":\"2\"\x7d\x7d")

def settingsConflict : Error := .conflict "configmaps/team/settings" (Text.quoted "")

theorem readObject_settingsReply :
    ∃ object, Connection.readObject settingsReply = .ok (some object) := by
  have isRead : ((Connection.readObject settingsReply).toOption.bind id).isSome = true := by
    decide +kernel
  cases read : Connection.readObject settingsReply with
  | error error => simp [read, Except.toOption] at isRead
  | ok object? =>
      cases object? with
      | none => simp [read, Except.toOption] at isRead
      | some object => exact ⟨object, rfl⟩

theorem restored_called :
    ((start .standard 0).serve
      (settingsRun restoreSettings .update [settingsReply, .answered 409 ""])).calls[0]? =
        some ⟨restoreSettings,
          .finished (.error (.context ("update " ++ settingsKey.text) settingsConflict))⟩ := by
  obtain ⟨object, read⟩ := readObject_settingsReply
  have isRead : settingsConnection.answer (.get settingsResource "team" "settings") settingsReply =
      .object (.ok (some object)) := by
    rw [Connection.answer_of_sends ⟨_, rfl⟩, Connection.conclude, read]
  have refuses : (HttpReply.answered 409 "").Refuses (Status.ofRefusal 409 "") := rfl
  have sends : settingsConnection.Sends (.replace settingsResource settings) := ⟨_, rfl⟩
  have isRefused : settingsConnection.answer (.replace settingsResource settings)
      (.answered 409 "") = .written (.error settingsConflict) :=
    Connection.answer_replace_of_conflict sends refuses rfl
  rw [settingsRun, serve_append, List.map_cons, serve, movesFor_reply rfl isRead, List.map_cons,
    movesFor_reply rfl isRefused]
  rfl

theorem restored_sorts_failures :
    let events := settingsRun restoreSettings .update [settingsReply, .answered 409 ""]
    let stage : Stage :=
      .finished (.error (.context ("update " ++ settingsKey.text) settingsConflict))
    ((start .standard 0).serve events).calls[0]? = some ⟨restoreSettings, stage⟩ ∧
      restoreSettings.need? = some (settingsKey, .update) ∧
      (∀ answer, .move (.answer 0 answer) ∉ events) ∧
      (∀ key change, restoreSettings = .update key change →
        ∀ object, ∃ changed, change object = .ok changed) ∧
      SortsFailures (start .standard 0) events 0 restoreSettings settingsKey .update stage := by
  intro events stage
  have relayed : ∀ answer, .move (.answer 0 answer) ∉ events := by
    intro answer
    simp [events, settingsRun]
  have succeeds : ∀ key change, restoreSettings = .update key change →
      ∀ object, ∃ changed, change object = .ok changed := by
    rintro key change isRestore object
    cases isRestore
    exact ⟨settings, rfl⟩
  exact ⟨restored_called, rfl, relayed, succeeds,
    replies_sort_failures restored_called rfl relayed succeeds⟩

/-- Settings that are not there. -/
def missingSettings : Status := ⟨"Failure", "configmaps not found", "NotFound", 404⟩

def missingBody : String :=
  "\x7b\"status\":\"Failure\",\"message\":\"configmaps not found\","
    ++ "\"reason\":\"NotFound\",\"code\":404\x7d"

def missingReply : HttpReply := .answered 404 missingBody

theorem missingReply_refuses : missingReply.Refuses missingSettings := by
  have told : Status.ofRefusal 404 missingBody = missingSettings := by decide +kernel
  exact congrArg (fun answer => Except.error (RequestFailure.refused answer)) told

/-- A deletion that the server answers by 404 does not fail as one of something that is missing. -/
theorem missing_delete_is_other :
    let events := settingsRun (.delete settingsKey) .delete [missingReply]
    (start .standard 0).Replied events 0 (.delete settingsResource "team" "settings")
        missingReply ∧
      missingReply.Refuses missingSettings ∧ missingSettings.code = 404 ∧
      missingSettings.reason = "NotFound" ∧
      ∃ error, ((start .standard 0).serve events).calls[0]? =
          some ⟨.delete settingsKey, .finished (.error error)⟩ ∧
        error.category = .other ∧ error.category ≠ .notFound := by
  intro events
  have replied : (start .standard 0).Replied events 0
      (.delete settingsResource "team" "settings") missingReply :=
    ⟨events.take 4, .reply 0 settingsConnection missingReply, [], rfl, settingsConnection, 0,
      .write, rfl, rfl, ⟨_, rfl⟩⟩
  exact ⟨replied, missingReply_refuses, rfl, rfl, _, rfl, rfl, nofun⟩

end System

end ClusterCache
