import ClusterCache.Proofs.Store.Loops
import ClusterCache.Proofs.Store.Passage
import ClusterCache.Proofs.System.Moves

/-!
# Which moves touch decisions and locks

A move concerns one call at most. If it is a move of a call, decisions and locks change only as this
call passes the locks; if it is not, decisions change only from outside and locks not at all.
-/

namespace ClusterCache

/-- How a move that concerns no call changes what there is to access. -/
def Move.onAccess (access : AccessGate) : Move → AccessGate
  | .presetDecision key allowed =>
      { access with decisions := access.decisions.insert key allowed }
  | .forgetDecisions => { access with decisions := Table.empty }
  | .changeAccessClient client => { access with client }
  | _ => access

@[simp] theorem Move.flights_onAccess (access : AccessGate) (move : Move) :
    (move.onAccess access).flights = access.flights := by
  cases move <;> rfl

namespace System

variable {system : System} {call other : CallId} {move : Move} {key : AccessKey}

/-- Where a call stands with regard to reviews. A call that has not begun is away. -/
def standing (system : System) (call : CallId) : Standing :=
  (system.calls[call]?.map fun current => current.stage.standing).getD .away

theorem standing_of_calls {current : Call} (called : system.calls[call]? = some current) :
    system.standing call = current.stage.standing := by
  simp [standing, called]

theorem standing_of_none (unbegun : system.calls[call]? = none) :
    system.standing call = .away := by
  simp [standing, unbegun]

theorem isMoveOf_unique (own : system.isMoveOf call move = true)
    (otherOwn : system.isMoveOf other move = true) : call = other := by
  cases move <;> simp_all [isMoveOf]

theorem standing_of_not_isMoveOf (foreign : system.isMoveOf call move = false) :
    (system.apply move).standing call = system.standing call := by
  unfold standing
  rw [calls_of_not_isMoveOf foreign]

theorem passes_apply (own : system.isMoveOf call move = true) :
    ∃ current, (system.apply move).calls[call]? = some current ∧
      Store.Passes call current.operation move system.store (system.apply move).store
        (system.standing call) ((system.apply move).standing call) := by
  cases before : system.calls[call]? with
  | some current =>
      obtain ⟨stored, called⟩ := apply_of_isMoveOf before own
      refine ⟨_, called, ?_⟩
      rw [standing_of_calls before, standing_of_calls called, stored]
      refine Call.passes_next system.store call current move ?_
      rintro other (⟨answer, rfl⟩ | rfl)
      all_goals
        simp only [isMoveOf, Bool.and_eq_true, decide_eq_true_eq] at own
        exact own.1
  | none =>
      obtain ⟨operation, rfl, stored, called⟩ := begin_of_isMoveOf before own
      refine ⟨_, called, ?_⟩
      rw [standing_of_none before, standing_of_calls called, stored]
      exact Store.passes_begin

/-! ## Moves of no call -/

/-- A move of no call is no move of a call at all, or it does nothing. -/
theorem idle_of_foreign (foreign : ∀ call, system.isMoveOf call move = false) :
    move.isCall = false ∨ system.apply move = system := by
  cases move with
  | begin operation => simp [isMoveOf] at foreign
  | enter call | takeLock call | answer call answer | giveUp call =>
      have unused : system.calls.length ≤ call := by simpa [isMoveOf] using foreign call
      simp [apply, proceed, List.getElem?_eq_none unused]
  | _ => exact Or.inl rfl

theorem calls_of_foreign (foreign : ∀ call, system.isMoveOf call move = false) :
    (system.apply move).calls = system.calls :=
  List.ext_getElem? fun call => calls_of_not_isMoveOf (foreign call)

theorem gate_of_foreign (foreign : ∀ call, system.isMoveOf call move = false) :
    (system.apply move).store.gate = system.store.gate := by
  rcases idle_of_foreign foreign with noCall | same
  · cases move with
    | turn id => exact (Store.keeps_turn system.store id).gate
    | wake waiter =>
        simp only [apply, modify]
        split
        · rename_i entry _
          obtain ⟨waiters, loading, woken⟩ := Store.wake_eq system.store entry
          rw [woken]
        · rfl
    | begin operation | enter call | takeLock call | answer call answer | giveUp call =>
        cases noCall
    | _ => rfl
  · rw [same]

/-- A move of no call decides only what is set from outside, and touches no lock. -/
theorem access_of_foreign (foreign : ∀ call, system.isMoveOf call move = false) :
    (system.apply move).store.access = move.onAccess system.store.access := by
  cases move with
  | turn id => exact (Store.keeps_turn system.store id).access
  | wake waiter =>
      simp only [apply, modify, Move.onAccess]
      split
      · rename_i entry _
        obtain ⟨waiters, loading, woken⟩ := Store.wake_eq system.store entry
        rw [woken]
      · rfl
  | begin operation | enter call | takeLock call | answer call answer | giveUp call =>
      rcases idle_of_foreign foreign with noCall | same
      · cases noCall
      · rw [same]
        rfl
  | _ => rfl

/-- If whoever reviews the key holds the lock, this is so after every move. -/
theorem holds_apply
    (holds : ∀ {call flight}, system.standing call = .reviewing key flight →
      system.store.access.flights.isHolder flight call = true) (move : Move) {flight : FlightId}
    (stands : (system.apply move).standing call = .reviewing key flight) :
    (system.apply move).store.access.flights.isHolder flight call = true := by
  by_cases own : system.isMoveOf call move = true
  · obtain ⟨current, _, passes⟩ := passes_apply own
    rw [stands] at passes
    rcases passes.reviewing with ⟨before, access⟩ | ⟨_, holdsAfter, _⟩
    · rw [access]
      exact holds before
    · exact holdsAfter
  · rw [standing_of_not_isMoveOf (by simpa using own)] at stands
    by_cases someOwn : ∃ mover, system.isMoveOf mover move = true
    · obtain ⟨mover, moves⟩ := someOwn
      have different : call ≠ mover := by
        rintro rfl
        exact own moves
      obtain ⟨current, _, passes⟩ := passes_apply moves
      exact passes.isHolder different (holds stands)
    · rw [access_of_foreign (by simpa using someOwn)]
      simpa [Flights.isHolder] using holds stands

/-! ## Reviews in flight -/

/-- The call has a review of the key in flight. -/
def Reviews (system : System) (key : AccessKey) (call : CallId) : Prop :=
  ∃ flight, system.standing call = .reviewing key flight

/-- The move brings the answer to a review of the key. -/
def Answers (key : AccessKey) (result : Except Error Bool) (system : System) (move : Move) : Prop :=
  ∃ call, move = .answer call (.review result) ∧ system.Reviews key call

theorem isMoveOf_answer {current : Call} (called : system.calls[call]? = some current)
    (answer : Answer) : system.isMoveOf call (.answer call answer) = true := by
  have used : call < system.calls.length := (List.getElem?_eq_some_iff.1 called).1
  simpa [isMoveOf] using used

theorem Reviews.called (reviews : system.Reviews key call) :
    ∃ current flight, system.calls[call]? = some current ∧
      current.stage.standing = .reviewing key flight := by
  obtain ⟨flight, stands⟩ := reviews
  cases called : system.calls[call]? with
  | none =>
      rw [standing_of_none called] at stands
      cases stands
  | some current =>
      rw [standing_of_calls called] at stands
      exact ⟨current, flight, rfl, stands⟩

/-- A decision that is known after a move was known before it, is set from outside, or is the
answer to a review. -/
theorem decision_apply {allowed : Bool}
    (known : (system.apply move).store.access.decisions.get? key = some allowed) :
    system.store.access.decisions.get? key = some allowed ∨
      move = .presetDecision key allowed ∨ Answers key (.ok allowed) system move := by
  by_cases own : ∃ call, system.isMoveOf call move = true
  · obtain ⟨call, own⟩ := own
    obtain ⟨current, _, passes⟩ := passes_apply own
    rcases passes.decision known with before | ⟨flight, reviews, answered⟩
    · exact Or.inl before
    · exact Or.inr (Or.inr ⟨call, answered, flight, reviews⟩)
  · have foreign : ∀ call, system.isMoveOf call move = false := by simpa using own
    rw [access_of_foreign foreign] at known
    cases move with
    | presetDecision preset presetAllowed =>
        simp only [Move.onAccess, Table.get?_insert] at known
        split at known
        · rename_i same
          cases known
          exact Or.inr (Or.inl (by rw [same]))
        · exact Or.inl known
    | forgetDecisions => cases known
    | _ => exact Or.inl known

end System

end ClusterCache
