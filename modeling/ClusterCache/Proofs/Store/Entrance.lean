import ClusterCache.Proofs.Store.Passage

/-!
# How calls pass the gate

A call that has to pass the gate is under way only if it was let in, and it stays inside until it
ends. What passes the gate alone ends as soon as it is let in.
-/

namespace ClusterCache

/-! ## Steps inside the gate -/

namespace Store

variable (store : Store) (call : CallId) (operation : Operation)

theorem staysInside_finish (result : Except Error Outcome) :
    StaysInside call store.gate (store.finish call operation result) :=
  (aside_finish store call operation result).gate

theorem staysInside_atLock (access : AccessKey) (flight : FlightId) :
    StaysInside call store.gate (store.atLock call operation access flight) := by
  unfold atLock
  split
  · rfl
  · split
    · exact (aside_decided { store with access.flights := _ } call operation access _).gate
    · rfl

theorem staysInside_located (access : AccessKey) :
    StaysInside call store.gate (store.located call operation access) := by
  unfold located
  split
  · exact (aside_decided store call operation access _).gate
  · exact staysInside_atLock { store with access.flights := _ } call operation access _

theorem staysInside_reviewed (access : AccessKey) (flight : FlightId)
    (result : Except Error Bool) :
    StaysInside call store.gate (store.reviewed call operation access flight result) := by
  cases result with
  | ok allowed => exact (aside_decided { store with access := _ } call operation access _).gate
  | error error => exact staysInside_finish { store with access.flights := _ } call operation _

theorem staysInside_enter : StaysInside call store.gate (store.enter call operation) := by
  cases operation with
  | unwatch kinds => exact (aside_unwatchNext store call _ store.client kinds).gate
  | isLoading key => exact staysInside_finish store call _ _
  | reset => exact staysInside_finish store.reset call _ _
  | changeClient client => exact staysInside_finish (store.changeClient client) call _ _
  | _ => exact (aside_locate store call _ _).gate

theorem staysInside_answered (client : ClientId) (request : Request) (purpose : Purpose)
    (answer : Answer) :
    StaysInside call store.gate
      (store.answered call operation client request purpose answer) := by
  unfold answered
  split
  · split
    · exact staysInside_located store call operation _
    · exact staysInside_finish store call operation _
    · exact staysInside_finish store call operation _
  · exact staysInside_reviewed store call operation _ _ _
  · split
    · exact (aside_mapped store call operation _).gate
    · exact staysInside_finish store call operation _
  · split
    · exact (aside_unwatchNext (store.forgetKind _ _) call operation client _).gate
    · exact (aside_unwatchNext store call operation client _).gate
  · split
    · exact (aside_changed store call operation client _ _).gate
    · exact staysInside_finish store call operation _
  · split
    · exact staysInside_finish store call operation _
    · exact staysInside_finish store call operation _
  · rfl

theorem gate_giveUp (stage : Stage) : (store.giveUp call stage).gate = store.gate.leave call := by
  unfold giveUp
  split <;> rfl

end Store

/-- A call that has not ended stays inside the gate until it ends. -/
theorem Call.staysInside_next (store : Store) (call : CallId) {current : Call}
    (pending : current.stage.isPending = true) (move : Move) :
    Store.StaysInside call store.gate (current.next store call move) := by
  obtain ⟨operation, stage⟩ := current
  have idle : Store.StaysInside call store.gate (store, stage) := by
    unfold Store.StaysInside
    rw [if_pos pending]
  cases move with
  | enter other =>
      cases stage with
      | arriving =>
          simp only [Call.next]
          split
          · exact Store.staysInside_enter store call operation
          · exact idle
      | _ => exact idle
  | takeLock other =>
      cases stage with
      | queuing access flight => exact Store.staysInside_atLock store call operation access flight
      | _ => exact idle
  | answer other answer =>
      cases stage with
      | asking client request purpose =>
          exact Store.staysInside_answered store call operation client request purpose answer
      | _ => exact idle
  | giveUp other =>
      have given : Call.next store call ⟨operation, stage⟩ (.giveUp other) =
          (store.giveUp call stage, .dropped) := if_pos pending
      rw [given]
      exact Store.gate_giveUp store call stage
  | _ => exact idle

theorem Call.next_of_not_isPending (store : Store) (call : CallId) {current : Call}
    (ended : current.stage.isPending = false) (move : Move) :
    current.next store call move = (store, current.stage) := by
  obtain ⟨operation, stage⟩ := current
  cases stage with
  | finished result | dropped => cases move <;> rfl
  | _ => cases ended

/-- The gate when a call has arrived at it, if it has to pass it. -/
def Store.arrived (store : Store) (call : CallId) (operation : Operation) : Gate :=
  match operation.passage? with
  | none => store.gate
  | some passage => store.gate.arrive call passage

/-- A call that begins stays inside the gate, or waits for it, until it ends. -/
theorem Store.staysInside_begin (store : Store) (call : CallId) (operation : Operation) :
    StaysInside call (store.arrived call operation) (store.begin call operation) := by
  unfold begin arrived
  cases operation.passage? with
  | none => exact staysInside_enter store call operation
  | some passage =>
      simp only
      split
      · exact staysInside_enter { store with gate := _ } call operation
      · rfl

/-- A call is under way only if it was let in. -/
theorem Store.isInside_of_begin {store : Store} {call : CallId} {operation : Operation}
    {passage : Passage} (passes : operation.passage? = some passage)
    (underWay : (store.begin call operation).2.isUnderWay = true) :
    (store.gate.arrive call passage).isInside call = true := by
  simp only [begin, passes] at underWay
  split at underWay
  · assumption
  · cases underWay

theorem Call.isInside_of_next {store : Store} {call : CallId} {current : Call} {move : Move}
    (underWay : (current.next store call move).2.isUnderWay = true) :
    current.stage.isUnderWay = true ∨ store.gate.isInside call = true := by
  obtain ⟨operation, stage⟩ := current
  cases stage with
  | arriving =>
      cases move with
      | enter other =>
          simp only [Call.next] at underWay
          split at underWay
          · exact Or.inr (by assumption)
          · cases underWay
      | _ => cases underWay
  | queuing access flight | asking client request purpose => exact Or.inl rfl
  | finished result | dropped =>
      rw [Call.next_of_not_isPending store call rfl] at underWay
      cases underWay

/-- What passes the gate alone ends as soon as it is let in. -/
theorem Store.enter_of_alone {operation : Operation} (alone : operation.passage? = some .alone)
    (store : Store) (call : CallId) :
    (store.enter call operation).2 = .finished (.ok .done) := by
  cases operation <;> first | rfl | cases alone

end ClusterCache
