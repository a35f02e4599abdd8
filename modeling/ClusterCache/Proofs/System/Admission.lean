import ClusterCache.Proofs.Gate.Admission
import ClusterCache.Proofs.Store.Entrance
import ClusterCache.Proofs.System.Passage

/-!
# Who is under way

A call that has to pass the gate is under way only while it is inside. So when a call is let in
alone, no other call that passes the gate is under way.
-/

namespace ClusterCache.System

variable {system : System} {call : CallId} {move : Move}

/-- The gate when the call that moves has arrived at it. -/
def arrived (system : System) : Move → Gate
  | .begin operation => system.store.arrived system.calls.length operation
  | _ => system.store.gate

/-- The gate knows the calls that it lets in or keeps waiting; who is under way is inside; and who
passes alone is never under way. -/
structure Admitted (system : System) : Prop where
  exclusive : system.store.gate.Exclusive
  known : ∀ {call : CallId} {passage : Passage}, system.store.gate.Has (call, passage) →
    ∃ current, system.calls[call]? = some current ∧ current.operation.passage? = some passage
  inside : ∀ {call : CallId} {current : Call} {passage : Passage},
    system.calls[call]? = some current →
    current.operation.passage? = some passage → current.stage.isUnderWay = true →
    (call, passage) ∈ system.store.gate.inside
  brief : ∀ {call : CallId} {current : Call}, system.calls[call]? = some current →
    current.operation.passage? = some .alone → current.stage.isUnderWay = false

theorem admitted_start (config : StoreConfig) (client : ClientId) :
    (start config client).Admitted where
  exclusive _ member := absurd member List.not_mem_nil
  known has := by rcases has with member | member <;> exact absurd member List.not_mem_nil
  inside called := by cases called
  brief called := by cases called

theorem arrived_of_called {current : Call} (called : system.calls[call]? = some current)
    (own : system.isMoveOf call move = true) : system.arrived move = system.store.gate := by
  cases move with
  | begin operation => exact absurd rfl (ne_begin_of_isMoveOf called own operation)
  | _ => rfl

/-- By a move of its own a call stays inside the gate until it ends. -/
theorem staysInside_apply (own : system.isMoveOf call move = true)
    (pending : (system.stood call).isPending = true) :
    ∃ current, (system.apply move).calls[call]? = some current ∧
      Store.StaysInside call (system.arrived move) ((system.apply move).store, current.stage) := by
  cases before : system.calls[call]? with
  | some current =>
      obtain ⟨stored, called⟩ := apply_of_isMoveOf before own
      rw [stood_of_calls before] at pending
      refine ⟨_, called, ?_⟩
      rw [stored, arrived_of_called before own]
      exact current.staysInside_next system.store call pending move
  | none =>
      obtain ⟨operation, rfl, stored, called⟩ := begin_of_isMoveOf before own
      have same : system.calls.length = call := by simpa [isMoveOf] using own
      refine ⟨_, called, ?_⟩
      rw [stored]
      simp only [arrived, same]
      exact system.store.staysInside_begin call operation

/-- Who has ended moves no more. -/
theorem apply_of_ended (ended : (system.stood call).isPending = false)
    (own : system.isMoveOf call move = true) :
    ∃ current, system.calls[call]? = some current ∧ (system.apply move).store = system.store ∧
      (system.apply move).calls[call]? = some current := by
  obtain ⟨operation, before⟩ := called_of_stood rfl fun arrives => by
    rw [arrives] at ended
    cases ended
  obtain ⟨stored, called⟩ := apply_of_isMoveOf before own
  rw [Call.next_of_not_isPending system.store call ended] at stored called
  exact ⟨_, before, stored, called⟩

/-- By a move of its own a call stays inside the gate, or it leaves and is not under way. -/
theorem gate_apply (own : system.isMoveOf call move = true) :
    ∃ current, (system.apply move).calls[call]? = some current ∧
      ((system.apply move).store.gate = system.arrived move ∨
        (system.apply move).store.gate = (system.arrived move).leave call ∧
          current.stage.isUnderWay = false) := by
  by_cases pending : (system.stood call).isPending = true
  · obtain ⟨current, called, stays⟩ := staysInside_apply own pending
    refine ⟨current, called, ?_⟩
    unfold Store.StaysInside at stays
    split at stays
    · exact Or.inl stays
    · rename_i ended
      refine Or.inr ⟨stays, ?_⟩
      by_contra underWay
      exact ended (Stage.isPending_of_isUnderWay (by simpa using underWay))
  · obtain ⟨current, before, stored, called⟩ := apply_of_ended (by simpa using pending) own
    refine ⟨current, called, Or.inl ?_⟩
    rw [stored, arrived_of_called before own]

theorem has_of_arrived {entry : CallId × Passage} (has : (system.arrived move).Has entry) :
    system.store.gate.Has entry ∨ ∃ operation, move = .begin operation ∧
      operation.passage? = some entry.2 ∧ entry.1 = system.calls.length := by
  cases move with
  | begin operation =>
      simp only [arrived, Store.arrived] at has
      split at has
      · exact Or.inl has
      · rename_i passage passes
        rcases Gate.has_of_arrive has with before | rfl
        · exact Or.inl before
        · exact Or.inr ⟨operation, rfl, passes, rfl⟩
  | _ => exact Or.inl has

theorem mem_inside_arrived {entry : CallId × Passage} (member : entry ∈ system.store.gate.inside)
    (move : Move) : entry ∈ (system.arrived move).inside := by
  cases move with
  | begin operation =>
      simp only [arrived, Store.arrived]
      split
      · exact member
      · exact Gate.mem_inside_arrive member _ _
  | _ => exact member

section Apply

variable (admitted : system.Admitted)

include admitted

theorem Admitted.exclusive_arrived (move : Move) : (system.arrived move).Exclusive := by
  cases move with
  | begin operation =>
      simp only [arrived, Store.arrived]
      split
      · exact admitted.exclusive
      · exact Gate.exclusive_arrive admitted.exclusive _ _
  | _ => exact admitted.exclusive

theorem Admitted.known_arrived {passage : Passage}
    (has : (system.arrived move).Has (call, passage)) :
    ∃ current, (system.apply move).calls[call]? = some current ∧
      current.operation.passage? = some passage := by
  rcases has_of_arrived has with before | ⟨operation, rfl, passes, isNew⟩
  · obtain ⟨current, called, passes⟩ := admitted.known before
    obtain ⟨stage, calledAfter⟩ := operation_apply called move
    exact ⟨_, calledAfter, passes⟩
  · have own : system.isMoveOf call (.begin operation) = true := by
      simpa [isMoveOf] using isNew.symm
    have unbegun : system.calls[call]? = none :=
      List.getElem?_eq_none (Nat.le_of_eq isNew.symm)
    obtain ⟨begun, same, _, calledAfter⟩ := begin_of_isMoveOf unbegun own
    cases same
    exact ⟨_, calledAfter, passes⟩

/-- Who is under way after its own move was inside before it, or was let in on arrival. -/
theorem Admitted.inside_arrived (own : system.isMoveOf call move = true) {current : Call}
    {passage : Passage} (called : (system.apply move).calls[call]? = some current)
    (passes : current.operation.passage? = some passage)
    (underWay : current.stage.isUnderWay = true) :
    (call, passage) ∈ (system.arrived move).inside := by
  have isInside : (call, passage) ∈ system.store.gate.inside ∨
      (system.arrived move).isInside call = true := by
    cases before : system.calls[call]? with
    | some earlier =>
        obtain ⟨_, calledAfter⟩ := apply_of_isMoveOf before own
        rw [calledAfter] at called
        cases called
        rcases Call.isInside_of_next underWay with wasUnderWay | isIn
        · exact Or.inl (admitted.inside before passes wasUnderWay)
        · obtain ⟨other, member⟩ := Gate.isInside_iff.1 isIn
          exact Or.inr (Gate.isInside_iff.2 ⟨other, mem_inside_arrived member move⟩)
    | none =>
        obtain ⟨operation, rfl, _, calledAfter⟩ := begin_of_isMoveOf before own
        have same : system.calls.length = call := by simpa [isMoveOf] using own
        rw [calledAfter] at called
        cases called
        have isIn := Store.isInside_of_begin passes underWay
        simp only [arrived, Store.arrived, same]
        rw [passes]
        exact Or.inr isIn
  rcases isInside with before | isIn
  · exact mem_inside_arrived before move
  · -- The gate knows the call by the passage that its operation asks for.
    obtain ⟨other, member⟩ := Gate.isInside_iff.1 isIn
    obtain ⟨known, knownCalled, knownPasses⟩ := admitted.known_arrived (Or.inl member)
    rw [called] at knownCalled
    cases knownCalled
    rw [passes] at knownPasses
    cases knownPasses
    exact member

theorem Admitted.brief_apply {current : Call}
    (called : (system.apply move).calls[call]? = some current)
    (alone : current.operation.passage? = some .alone) : current.stage.isUnderWay = false := by
  by_cases own : system.isMoveOf call move = true
  · cases before : system.calls[call]? with
    | some earlier =>
        obtain ⟨_, calledAfter⟩ := apply_of_isMoveOf before own
        rw [calledAfter] at called
        cases called
        have idle := admitted.brief before alone
        obtain ⟨operation, stage⟩ := earlier
        cases stage with
        | arriving =>
            cases move with
            | enter other =>
                simp only [Call.next]
                split
                · rw [Store.enter_of_alone alone]
                  rfl
                · rfl
            | _ => rfl
        | queuing access flight | asking client request purpose => cases idle
        | finished result | dropped =>
            rw [Call.next_of_not_isPending system.store call rfl]
            rfl
    | none =>
        obtain ⟨operation, rfl, _, calledAfter⟩ := begin_of_isMoveOf before own
        rw [calledAfter] at called
        cases called
        simp only at alone
        simp only [Store.begin, alone]
        split
        · rw [Store.enter_of_alone alone]
          rfl
        · rfl
  · rw [calls_of_not_isMoveOf (by simpa using own)] at called
    exact admitted.brief called alone

theorem Admitted.apply (move : Move) : (system.apply move).Admitted := by
  by_cases own : ∃ mover, system.isMoveOf mover move = true
  · obtain ⟨mover, own⟩ := own
    obtain ⟨moved, calledMover, gate⟩ := gate_apply own
    constructor
    case exclusive =>
      rcases gate with stays | ⟨left, _⟩
      · rw [stays]
        exact admitted.exclusive_arrived move
      · rw [left]
        exact Gate.exclusive_leave (admitted.exclusive_arrived move) mover
    case known =>
      intro call passage has
      rcases gate with stays | ⟨left, _⟩
      · rw [stays] at has
        exact admitted.known_arrived has
      · rw [left] at has
        exact admitted.known_arrived (Gate.has_of_leave has)
    case inside =>
      intro call current passage called passes underWay
      by_cases same : call = mover
      · subst same
        have isIn := admitted.inside_arrived own called passes underWay
        rcases gate with stays | ⟨_, ended⟩
        · rw [stays]
          exact isIn
        · rw [calledMover] at called
          cases called
          rw [ended] at underWay
          cases underWay
      · have foreign : system.isMoveOf call move = false := by
          by_contra moves
          exact same (isMoveOf_unique (by simpa using moves) own)
        rw [calls_of_not_isMoveOf foreign] at called
        have isIn := mem_inside_arrived (admitted.inside called passes underWay) move
        rcases gate with stays | ⟨left, _⟩
        · rw [stays]
          exact isIn
        · rw [left]
          exact Gate.mem_inside_leave isIn same
    case brief => exact admitted.brief_apply
  · have foreign : ∀ call, system.isMoveOf call move = false := by simpa using own
    have gate := gate_of_foreign foreign
    have calls := calls_of_foreign foreign
    constructor
    case exclusive => exact gate ▸ admitted.exclusive
    case known => exact gate ▸ calls ▸ admitted.known
    case inside => exact gate ▸ calls ▸ admitted.inside
    case brief => exact admitted.brief_apply

end Apply

theorem Admitted.run (admitted : system.Admitted) (moves : List Move) :
    (system.run moves).Admitted := by
  induction moves generalizing system with
  | nil => exact admitted
  | cons move rest inductionHypothesis => exact inductionHypothesis (admitted.apply move)

end ClusterCache.System
