import ClusterCache.Proofs.Store.Inquiries

/-!
# What calls ask before they touch informers

Before it works on a resource, an operation on objects asks as which resource the kind of its key is
served; and a kind is forgotten only after it was asked as which resource this kind is served.
-/

namespace ClusterCache

/-- The question that the call waits for is about the kind that the answer will be used for. -/
def Stage.IsFaithful (operation : Operation) : Stage → Prop
  | .asking _ request .map =>
      ∀ key verb, operation.need? = some (key, verb) → request = .resource key.groupVersionKind
  | .asking _ request (.forget kind _) => request = .resource kind
  | _ => True

namespace Store

variable (store : Store) (call : CallId) (operation : Operation)

theorem faithful_finish (result : Except Error Outcome) :
    (store.finish call operation result).2.IsFaithful operation := by
  cases result <;> trivial

theorem faithful_askMapping {key : Key} {verb : Verb}
    (need : operation.need? = some (key, verb)) :
    (store.askMapping key).2.IsFaithful operation := by
  intro other otherVerb otherNeed
  rw [need] at otherNeed
  rw [(Prod.mk.inj (Option.some.inj otherNeed)).1]

theorem faithful_askNamedMapping {key : Key} {verb : Verb}
    (need : operation.need? = some (key, verb)) :
    (store.askNamedMapping call operation key).2.IsFaithful operation := by
  unfold askNamedMapping
  split
  · exact faithful_askMapping store operation need
  · exact faithful_finish store call operation _

theorem faithful_decided (access : AccessKey) (allowed : Bool) :
    (store.decided call operation access allowed).2.IsFaithful operation := by
  unfold decided
  split
  · exact faithful_finish store call operation _
  · cases operation with
    | list key => exact faithful_askMapping store _ rfl
    | watch key listener type => exact faithful_askMapping store _ rfl
    | get key => exact faithful_askNamedMapping store call _ rfl
    | delete key => exact faithful_askNamedMapping store call _ rfl
    | update key change => exact faithful_askNamedMapping store call _ rfl
    | _ => exact faithful_finish store call _ _

theorem faithful_atLock (access : AccessKey) (flight : FlightId) :
    (store.atLock call operation access flight).2.IsFaithful operation := by
  unfold atLock
  split
  · trivial
  · split
    · exact faithful_decided _ call operation access _
    · trivial

theorem faithful_located (access : AccessKey) :
    (store.located call operation access).2.IsFaithful operation := by
  unfold located
  split
  · exact faithful_decided store call operation access _
  · exact faithful_atLock _ call operation access _

theorem faithful_reviewed (access : AccessKey) (flight : FlightId)
    (result : Except Error Bool) :
    (store.reviewed call operation access flight result).2.IsFaithful operation := by
  cases result with
  | ok allowed => exact faithful_decided _ call operation access allowed
  | error error => exact faithful_finish _ call operation _

theorem faithful_mapped (resource : ApiResource) :
    (store.mapped call operation resource).2.IsFaithful operation := by
  cases operation with
  | delete key => trivial
  | update key change => trivial
  | _ => exact faithful_finish _ call _ _

theorem faithful_changed (client : ClientId) (resource : ApiResource)
    (object : Option Object) :
    (store.changed call operation client resource object).2.IsFaithful operation := by
  unfold changed
  split
  · split
    · exact faithful_finish store call _ _
    · split
      · exact faithful_finish store call _ _
      · trivial
  · exact faithful_finish store call operation _

theorem faithful_unwatchNext (client : ClientId) (kinds : List GroupVersionKind) :
    (store.unwatchNext call operation client kinds).2.IsFaithful operation := by
  cases kinds with
  | nil => exact faithful_finish store call operation _
  | cons kind rest => exact rfl

theorem faithful_locate (key : Key) :
    (store.locate call operation key).2.IsFaithful operation := by
  unfold locate
  split
  · exact faithful_finish store call operation _
  · trivial

theorem faithful_enter : (store.enter call operation).2.IsFaithful operation := by
  cases operation with
  | unwatch kinds => exact faithful_unwatchNext store call _ store.client kinds
  | isLoading key => exact faithful_finish store call _ _
  | reset => exact faithful_finish _ call _ _
  | changeClient client => exact faithful_finish _ call _ _
  | _ => exact faithful_locate store call _ _

theorem faithful_begin : (store.begin call operation).2.IsFaithful operation := by
  unfold begin
  split
  · exact faithful_enter store call operation
  · simp only
    split
    · exact faithful_enter _ call operation
    · trivial

theorem faithful_answered (client : ClientId) (request : Request) (purpose : Purpose)
    (answer : Answer) (faithful : (Stage.asking client request purpose).IsFaithful operation) :
    (store.answered call operation client request purpose answer).2.IsFaithful operation := by
  unfold answered
  split
  · split
    · exact faithful_located store call operation _
    · exact faithful_finish store call operation _
    · exact faithful_finish store call operation _
  · exact faithful_reviewed store call operation _ _ _
  · split
    · exact faithful_mapped store call operation _
    · exact faithful_finish store call operation _
  · split
    · exact faithful_unwatchNext _ call operation client _
    · exact faithful_unwatchNext store call operation client _
  · split
    · exact faithful_changed store call operation client _ _
    · exact faithful_finish store call operation _
  · split
    · exact faithful_finish store call operation _
    · exact faithful_finish store call operation _
  · exact faithful

end Store

/-- Every step keeps a call faithful. -/
theorem Call.faithful_next (store : Store) (call : CallId) {current : Call}
    (faithful : current.stage.IsFaithful current.operation) (move : Move) :
    (Call.next store call current move).2.IsFaithful current.operation := by
  obtain ⟨operation, stage⟩ := current
  cases move with
  | enter other =>
      cases stage with
      | arriving =>
          simp only [Call.next]
          split
          · exact Store.faithful_enter store call operation
          · exact faithful
      | _ => exact faithful
  | takeLock other =>
      cases stage with
      | queuing access flight => exact Store.faithful_atLock store call operation access flight
      | _ => exact faithful
  | answer other answer =>
      cases stage with
      | asking client request purpose =>
          exact Store.faithful_answered store call operation client request purpose answer
            faithful
      | _ => exact faithful
  | giveUp other =>
      simp only [Call.next]
      split
      · trivial
      · exact faithful
  | _ => exact faithful

end ClusterCache
