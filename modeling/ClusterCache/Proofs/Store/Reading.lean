import ClusterCache.Proofs.Store.Deeds

/-!
# Where returned objects come from

Objects are returned only by an operation that was just served, and they are those that the replica
of the serving informer holds at that moment.
-/

namespace ClusterCache

/-- The operation returns objects. -/
def Outcome.isObjects : Outcome → Bool
  | .listed .. | .found _ => true
  | _ => false

/-- The call has returned objects. -/
def Stage.hasShown : Stage → Bool
  | .finished (.ok outcome) => outcome.isObjects
  | _ => false

/-- What an operation returns that reads from an informer of the store. -/
def Operation.reading (store : Store) (id : InformerId) : Operation → Option Outcome
  | .list key =>
      some (.listed ((store.informers.informer id).replica.list key)
        (!store.loading.isLoaded key.scope))
  | .get key =>
      some (.found ((store.informers.informer id).replica.get? key.ns (key.name.getD "")))
  | _ => none

namespace Store

variable (store : Store) (call : CallId) (operation : Operation)

/-! ## Steps that return no objects -/

theorem hasShown_askNamedMapping (key : Key) :
    (store.askNamedMapping call operation key).2.hasShown = false := by
  unfold askNamedMapping
  split <;> rfl

theorem hasShown_decided (access : AccessKey) (allowed : Bool) :
    (store.decided call operation access allowed).2.hasShown = false := by
  unfold decided
  split
  · rfl
  · cases operation with
    | get key | delete key | update key change => exact hasShown_askNamedMapping store call _ key
    | _ => rfl

theorem hasShown_atLock (access : AccessKey) (flight : FlightId) :
    (store.atLock call operation access flight).2.hasShown = false := by
  unfold atLock
  split
  · rfl
  · split
    · exact hasShown_decided _ call operation access _
    · rfl

theorem hasShown_located (access : AccessKey) :
    (store.located call operation access).2.hasShown = false := by
  unfold located
  split
  · exact hasShown_decided store call operation access _
  · exact hasShown_atLock _ call operation access _

theorem hasShown_reviewed (access : AccessKey) (flight : FlightId)
    (result : Except Error Bool) :
    (store.reviewed call operation access flight result).2.hasShown = false := by
  cases result with
  | ok allowed => exact hasShown_decided _ call operation access allowed
  | error error => rfl

theorem hasShown_changed (client : ClientId) (resource : ApiResource)
    (object : Option Object) :
    (store.changed call operation client resource object).2.hasShown = false := by
  unfold changed
  split
  · split
    · rfl
    · split <;> rfl
  · rfl

theorem hasShown_unwatchNext (client : ClientId) (kinds : List GroupVersionKind) :
    (store.unwatchNext call operation client kinds).2.hasShown = false := by
  cases kinds <;> rfl

theorem hasShown_locate (key : Key) :
    (store.locate call operation key).2.hasShown = false := by
  unfold locate
  split <;> rfl

theorem hasShown_enter : (store.enter call operation).2.hasShown = false := by
  cases operation with
  | unwatch kinds => exact hasShown_unwatchNext store call _ store.client kinds
  | isLoading key | reset | changeClient client => rfl
  | _ => exact hasShown_locate store call _ _

theorem hasShown_begin : (store.begin call operation).2.hasShown = false := by
  unfold begin
  split
  · exact hasShown_enter store call operation
  · simp only
    split
    · exact hasShown_enter _ call operation
    · rfl

/-! ## The step that does -/

/-- An operation that returns objects when it knows its resource reads them from the informer that
serves it. -/
theorem reading_of_mapped {resource : ApiResource} {outcome : Outcome}
    (returned : (store.mapped call operation resource).2 = .finished (.ok outcome))
    (objects : outcome.isObjects = true) :
    ∃ key, operation.mappedDeed resource = .serve key resource ∧
      operation.reading (store.serve key resource).1 (store.serve key resource).2 =
        some outcome := by
  cases operation with
  | list key | get key =>
      cases returned
      exact ⟨key, rfl, rfl⟩
  | delete key | update key change => cases returned
  | _ =>
      cases returned
      cases objects

/-- An answer after which objects are returned is the one that the operation was waiting for to
know its resource. -/
theorem mapped_of_answered {client : ClientId} {request : Request} {purpose : Purpose}
    {answer : Answer}
    (shown : (store.answered call operation client request purpose answer).2.hasShown = true) :
    ∃ resource, purpose = .map ∧ answer = .resource (.ok resource) := by
  unfold answered at shown
  split at shown
  · split at shown
    · rw [hasShown_located] at shown
      cases shown
    · cases shown
    · cases shown
  · rw [hasShown_reviewed] at shown
    cases shown
  · split at shown
    · exact ⟨_, rfl, rfl⟩
    · cases shown
  · split at shown
    · rw [hasShown_unwatchNext] at shown
      cases shown
    · rw [hasShown_unwatchNext] at shown
      cases shown
  · split at shown
    · rw [hasShown_changed] at shown
      cases shown
    · cases shown
  · split at shown <;> cases shown
  · cases shown

end Store

namespace Call

variable {store : Store} {call : CallId} {current : Call} {move : Move} {outcome : Outcome}

/-- A call returns objects only by the answer that tells it its resource. -/
theorem asking_of_next (returned : (current.next store call move).2 = .finished (.ok outcome))
    (objects : outcome.isObjects = true) (pending : current.stage.isPending = true) :
    ∃ client request other resource, current.stage = .asking client request .map ∧
      move = .answer other (.resource (.ok resource)) := by
  obtain ⟨operation, stage⟩ := current
  have shown : (Call.next store call ⟨operation, stage⟩ move).2.hasShown = true := by
    rw [returned]
    exact objects
  cases stage with
  | finished result | dropped => cases pending
  | arriving =>
      cases move with
      | enter other =>
          simp only [Call.next] at shown
          split at shown
          · rw [Store.hasShown_enter] at shown
            cases shown
          · cases shown
      | _ => cases shown
  | queuing access flight =>
      cases move with
      | takeLock other =>
          simp only [Call.next, Store.hasShown_atLock] at shown
          cases shown
      | _ => cases shown
  | asking client request purpose =>
      cases move with
      | answer other answer =>
          obtain ⟨resource, rfl, rfl⟩ := store.mapped_of_answered call operation shown
          exact ⟨client, request, other, resource, rfl, rfl⟩
      | _ => cases shown

end Call

end ClusterCache
