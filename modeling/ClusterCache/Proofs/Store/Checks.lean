import ClusterCache.Proofs.Store.Passage

/-!
# The course of a check of access

A check asks as which resource the kind of its key is served, and then returns the decision on the
access that this makes: one that is known, or the one that its own review brings. What goes wrong on
the way it returns as it is, a failed review as such.
-/

namespace ClusterCache

/-- The access that a check is about, if the kind of its key is served as the resource. -/
def Key.checked (key : Key) (verb : String) (resource : ApiResource) : AccessKey :=
  ⟨key.ns, resource.group, resource.plural, verb⟩

/-- What a decision means for who asked. -/
def AccessKey.verdict (access : AccessKey) (allowed : Bool) : Except Error Outcome :=
  if allowed then .ok .done else .error (.accessDenied access)

/-- The call waits for nothing that a check does not wait for. -/
def Stage.IsCheck : Stage → Prop
  | .asking _ _ .locate | .asking _ _ (.review ..) => True
  | .asking .. => False
  | _ => True

namespace Store

/-- How a check goes on. -/
inductive Checks (store : Store) (call : CallId) (key : Key) (verb : String) (move : Move) :
    Stage → Stage → Prop
  | stays (stage : Stage) : Checks store call key verb move stage stage
  | kindless (noKind : key.kind.isEmpty = true) :
      Checks store call key verb move .arriving
        (.finished (.error
          (.mapping key.text "unable to check access for a key without a kind")))
  | locates (client : ClientId) :
      Checks store call key verb move .arriving
        (.asking client (.resource key.groupVersionKind) .locate)
  | unlocated (client : ClientId) (request : Request) (error : Error)
      (answered : move = .answer call (.resource (.error error))) :
      Checks store call key verb move (.asking client request .locate) (.finished (.error error))
  | knows (client : ClientId) (request : Request) (resource : ApiResource)
      (answered : move = .answer call (.resource (.ok resource))) (allowed : Bool)
      (known : store.access.decisions.get? (key.checked verb resource) = some allowed) :
      Checks store call key verb move (.asking client request .locate)
        (.finished ((key.checked verb resource).verdict allowed))
  | lines (client : ClientId) (request : Request) (resource : ApiResource)
      (answered : move = .answer call (.resource (.ok resource))) (next : Stage)
      (flight : FlightId)
      (place : next.standing.place? = some (key.checked verb resource, flight))
      (isCheck : next.IsCheck) :
      Checks store call key verb move (.asking client request .locate) next
  | asks (access : AccessKey) (flight : FlightId) (client : ClientId) :
      Checks store call key verb move (.queuing access flight)
        (.asking client (.review access) (.review access flight))
  | reads (access : AccessKey) (flight : FlightId) (allowed : Bool)
      (known : store.access.decisions.get? access = some allowed) :
      Checks store call key verb move (.queuing access flight) (.finished (access.verdict allowed))
  | decides (client : ClientId) (request : Request) (access : AccessKey) (flight : FlightId)
      (allowed : Bool) (answered : move = .answer call (.review (.ok allowed))) :
      Checks store call key verb move (.asking client request (.review access flight))
        (.finished (access.verdict allowed))
  | fails (client : ClientId) (request : Request) (access : AccessKey) (flight : FlightId)
      (error : Error) (answered : move = .answer call (.review (.error error))) :
      Checks store call key verb move (.asking client request (.review access flight))
        (.finished (.error (.fetch access error)))
  | drops (stage : Stage) : Checks store call key verb move stage .dropped

variable {call : CallId} {key : Key} {verb : String} {move : Move}

theorem stage_decided_check (store : Store) (access : AccessKey) (allowed : Bool) :
    (store.decided call (.checkAccess key verb) access allowed).2 =
      .finished (access.verdict allowed) := by
  cases allowed <;> rfl

theorem checks_begin (store : Store) :
    store.Checks call key verb move .arriving (store.begin call (.checkAccess key verb)).2 := by
  by_cases noKind : key.kind.isEmpty = true
  · have failed : (store.begin call (.checkAccess key verb)).2 =
        .finished (.error
          (.mapping key.text "unable to check access for a key without a kind")) := by
      simp only [begin, Operation.passage?, enter, Operation.demand?, locate, noKind]
      rfl
    rw [failed]
    exact .kindless noKind
  · have located : (store.begin call (.checkAccess key verb)).2 =
        .asking store.access.client (.resource key.groupVersionKind) .locate := by
      simp only [begin, Operation.passage?, enter, Operation.demand?, locate, noKind]
      rfl
    rw [located]
    exact .locates store.access.client

theorem checks_enter (store : Store) :
    store.Checks call key verb move .arriving (store.enter call (.checkAccess key verb)).2 :=
  checks_begin store

theorem checks_located (store : Store) (client : ClientId) (request : Request)
    (resource : ApiResource) (answered : move = .answer call (.resource (.ok resource))) :
    store.Checks call key verb move (.asking client request .locate)
      (store.located call (.checkAccess key verb) (key.checked verb resource)).2 := by
  unfold located
  cases known : store.access.decisions.get? (key.checked verb resource) with
  | some allowed =>
      simp only [stage_decided_check]
      exact .knows client request resource answered allowed known
  | none =>
      simp only [atLock, known]
      split
      · exact .lines client request resource answered _ _ rfl trivial
      · exact .lines client request resource answered _ _ rfl trivial

theorem checks_atLock (store : Store) (access : AccessKey) (flight : FlightId) :
    store.Checks call key verb move (.queuing access flight)
      (store.atLock call (.checkAccess key verb) access flight).2 := by
  unfold atLock
  split
  · exact .stays _
  · cases known : store.access.decisions.get? access with
    | some allowed =>
        simp only [stage_decided_check]
        exact .reads access flight allowed known
    | none => exact .asks access flight store.access.client

theorem checks_reviewed (store : Store) (client : ClientId) (request : Request)
    (access : AccessKey) (flight : FlightId) (result : Except Error Bool)
    (answered : move = .answer call (.review result)) :
    store.Checks call key verb move (.asking client request (.review access flight))
      (store.reviewed call (.checkAccess key verb) access flight result).2 := by
  cases result with
  | ok allowed =>
      simp only [reviewed, stage_decided_check]
      exact .decides client request access flight allowed answered
  | error error => exact .fails client request access flight error answered

end Store

theorem Call.checks_next (store : Store) (call : CallId) {key : Key} {verb : String} {stage : Stage}
    (isCheck : stage.IsCheck) (move : Move)
    (own : ∀ other answer, move = .answer other answer → other = call) :
    store.Checks call key verb move stage
      (Call.next store call ⟨.checkAccess key verb, stage⟩ move).2 := by
  cases move with
  | enter other =>
      cases stage with
      | arriving =>
          simp only [Call.next]
          split
          · exact Store.checks_enter store
          · exact .stays _
      | _ => exact .stays _
  | takeLock other =>
      cases stage with
      | queuing access flight => exact Store.checks_atLock store access flight
      | _ => exact .stays _
  | answer other answer =>
      cases stage with
      | asking client request purpose =>
          rw [own other answer rfl]
          cases purpose with
          | locate =>
              cases answer with
              | resource result =>
                  cases result with
                  | ok resource => exact Store.checks_located store client request resource rfl
                  | error error => exact .unlocated client request error rfl
              | _ => exact .stays _
          | review access flight =>
              cases answer with
              | review result =>
                  exact Store.checks_reviewed store client request access flight result rfl
              | _ => exact .stays _
          | _ => exact absurd isCheck id
      | _ => exact .stays _
  | giveUp other =>
      simp only [Call.next]
      split
      · exact .drops stage
      · exact .stays _
  | _ => exact .stays _

end ClusterCache
