import ClusterCache.Proofs.Flights.Locks
import ClusterCache.Proofs.Store.Inquiries

/-!
# How calls pass the locks

With regard to reviews a call is away, waits at a lock, or has a review in flight. A step of a call
changes decisions and locks only as it goes from one of these to another. It stays inside the gate
until it ends. Main statement: for every step of a call, the change of the decisions and the locks
is one of a few, each between two given standings.
-/

namespace ClusterCache

/-! ## Standings -/

/-- Where a call stands with regard to reviews. -/
inductive Standing
  | away
  | waiting (access : AccessKey) (flight : FlightId)
  | reviewing (access : AccessKey) (flight : FlightId)

/-- The lock that the call waits for or holds. -/
def Standing.flight? : Standing → Option FlightId
  | away => none
  | waiting _ flight | reviewing _ flight => some flight

/-- What the call stands in line for, and at which lock. -/
def Standing.place? : Standing → Option (AccessKey × FlightId)
  | away => none
  | waiting access flight | reviewing access flight => some (access, flight)

theorem Standing.of_place? {standing : Standing} {access : AccessKey} {flight : FlightId}
    (place : standing.place? = some (access, flight)) :
    standing = .waiting access flight ∨ standing = .reviewing access flight := by
  cases standing with
  | away => cases place
  | waiting key lock =>
      cases place
      exact Or.inl rfl
  | reviewing key lock =>
      cases place
      exact Or.inr rfl

def Stage.standing : Stage → Standing
  | .queuing access flight => .waiting access flight
  | .asking _ _ (.review access flight) => .reviewing access flight
  | _ => .away

/-- Whoever waits for a lock waits in the stage at its lock. -/
theorem Stage.eq_queuing {stage : Stage} {key : AccessKey} {flight : FlightId}
    (waits : stage.standing = .waiting key flight) : stage = .queuing key flight := by
  cases stage with
  | queuing access lock =>
      cases waits
      rfl
  | asking client request purpose => cases purpose <;> cases waits
  | _ => cases waits

/-- The call has entered the gate and not ended yet. -/
def Stage.isUnderWay : Stage → Bool
  | .queuing .. | .asking .. => true
  | _ => false

theorem Stage.isPending_of_isUnderWay {stage : Stage} (underWay : stage.isUnderWay = true) :
    stage.isPending = true := by
  cases stage <;> first | rfl | cases underWay

namespace Store

/-- By the step the call stays inside the gate, unless the step ends it. -/
def StaysInside (call : CallId) (gate : Gate) (next : Store × Stage) : Prop :=
  next.1.gate = if next.2.isPending then gate else gate.leave call

/-- The step leaves decisions and locks alone, and the call is not at a lock afterwards. -/
structure Aside (call : CallId) (before : Store) (next : Store × Stage) : Prop where
  access : next.1.access = before.access
  standing : next.2.standing = .away
  gate : StaysInside call before.gate next

/-! ## Steps away from the locks -/

section Steps

variable (store : Store) (call : CallId) (operation : Operation)

theorem aside_finish (result : Except Error Outcome) :
    Aside call store (store.finish call operation result) := by
  obtain ⟨ran, callbacks, ending, same, _⟩ := finish_eq store call operation result
  rw [same]
  exact ⟨rfl, rfl, rfl⟩

theorem aside_ask (client : ClientId) (request : Request) {purpose : Purpose}
    (other : (Stage.asking client request purpose).standing = .away) :
    Aside call store (store.ask client request purpose) :=
  ⟨rfl, other, rfl⟩

theorem aside_askNamedMapping (key : Key) :
    Aside call store (store.askNamedMapping call operation key) := by
  unfold askNamedMapping
  split
  · exact aside_ask store call _ _ rfl
  · exact aside_finish store call operation _

theorem aside_decided (access : AccessKey) (allowed : Bool) :
    Aside call store (store.decided call operation access allowed) := by
  unfold decided
  split
  · exact aside_finish store call operation _
  · cases operation with
    | list key => exact aside_ask store call _ _ rfl
    | watch key listener type => exact aside_ask store call _ _ rfl
    | get key => exact aside_askNamedMapping store call _ key
    | delete key => exact aside_askNamedMapping store call _ key
    | update key change => exact aside_askNamedMapping store call _ key
    | _ => exact aside_finish store call _ _

@[simp] theorem gate_serve (key : Key) (resource : ApiResource) :
    (store.serve key resource).1.gate = store.gate := by
  have obtained : (store.obtainInformer resource).1.gate = store.gate := by
    simp only [obtainInformer]
    split <;> rfl
  rw [← obtained]
  simp only [serve, noteUse]
  split <;> split <;> rfl

/-- A step that first works on the store, away from gate and locks. -/
theorem Aside.after {worked : Store} {next : Store × Stage} (aside : Aside call worked next)
    (access : worked.access = store.access) (gate : worked.gate = store.gate) :
    Aside call store next := by
  refine ⟨aside.access.trans access, aside.standing, ?_⟩
  rw [← gate]
  exact aside.gate

theorem aside_mapped (resource : ApiResource) :
    Aside call store (store.mapped call operation resource) := by
  unfold mapped
  cases operation with
  | list key | get key | watch key listener type =>
      exact (aside_finish _ call _ _).after store call
        (access_serve store key resource) (gate_serve store key resource)
  | delete key | update key change => exact aside_ask store call _ _ rfl
  | _ => exact aside_finish store call _ _

theorem aside_changed (client : ClientId) (resource : ApiResource) (object : Option Object) :
    Aside call store (store.changed call operation client resource object) := by
  unfold changed
  split
  · split
    · exact aside_finish store call _ _
    · split
      · exact aside_finish store call _ _
      · exact aside_ask store call _ _ rfl
  · exact aside_finish store call operation _

theorem aside_unwatchNext (client : ClientId) (kinds : List GroupVersionKind) :
    Aside call store (store.unwatchNext call operation client kinds) := by
  unfold unwatchNext
  cases kinds with
  | nil => exact aside_finish store call operation _
  | cons kind rest => exact aside_ask store call _ _ rfl

theorem aside_locate (key : Key) : Aside call store (store.locate call operation key) := by
  unfold locate
  split
  · exact aside_finish store call operation _
  · exact aside_ask store call _ _ rfl

end Steps

/-! ## Steps at the locks -/

/-- How decisions and locks change by a step of a call, which stands at a lock as given before and
after it. -/
inductive Passes (call : CallId) (operation : Operation) (move : Move) (before after : Store) :
    Standing → Standing → Prop
  /-- It neither comes to a lock nor leaves one. -/
  | stays (standing : Standing) (access : after.access = before.access) :
      Passes call operation move before after standing standing
  /-- A reset forgets the decisions. -/
  | forgets (isReset : operation = .reset)
      (access : after.access = { before.access with decisions := Table.empty }) :
      Passes call operation move before after .away .away
  /-- Later decisions are made on another connection. -/
  | reconnects (client : ClientId) (access : after.access = { before.access with client }) :
      Passes call operation move before after .away .away
  /-- It joins a lock that another holds. -/
  | joins (key : AccessKey) (undecided : before.access.decisions.get? key = none)
      (access : after.access =
        { before.access with flights := (before.access.flights.join key call).1 })
      (waits : (before.access.flights.join key call).1.isHolder
        (before.access.flights.join key call).2 call = false) :
      Passes call operation move before after .away
        (.waiting key (before.access.flights.join key call).2)
  /-- It joins a lock that nobody holds, and asks. -/
  | asksAtOnce (key : AccessKey) (undecided : before.access.decisions.get? key = none)
      (holds : (before.access.flights.join key call).1.isHolder
        (before.access.flights.join key call).2 call = true)
      (access : after.access =
        { before.access with flights := (before.access.flights.join key call).1 })
      (sent : after.journal = .sent before.access.client (.review key) :: before.journal) :
      Passes call operation move before after .away
        (.reviewing key (before.access.flights.join key call).2)
  /-- It has waited for the lock, and asks. -/
  | asks (key : AccessKey) (flight : FlightId)
      (undecided : before.access.decisions.get? key = none)
      (holds : before.access.flights.isHolder flight call = true)
      (access : after.access = before.access)
      (sent : after.journal = .sent before.access.client (.review key) :: before.journal) :
      Passes call operation move before after (.waiting key flight) (.reviewing key flight)
  /-- It has waited for the lock, finds a decision and leaves. -/
  | reads (key : AccessKey) (flight : FlightId)
      (access : after.access =
        { before.access with flights := before.access.flights.leave flight call })
      (known : before.access.decisions.get? key ≠ none) :
      Passes call operation move before after (.waiting key flight) .away
  /-- Its review decides. -/
  | decides (key : AccessKey) (flight : FlightId) (allowed : Bool)
      (answered : move = .answer call (.review (.ok allowed)))
      (access : after.access =
        { before.access with
          decisions := before.access.decisions.insert key allowed
          flights := (before.access.flights.strike key flight).leave flight call }) :
      Passes call operation move before after (.reviewing key flight) .away
  /-- Its review fails. -/
  | fails (key : AccessKey) (flight : FlightId) (error : Error)
      (answered : move = .answer call (.review (.error error)))
      (access : after.access =
        { before.access with
          flights := (before.access.flights.strike key flight).leave flight call }) :
      Passes call operation move before after (.reviewing key flight) .away
  /-- It is given up. -/
  | leaves (standing : Standing) (flight : FlightId) (atLock : standing.flight? = some flight)
      (access : after.access =
        { before.access with flights := before.access.flights.leave flight call })
      (given : move = .giveUp call) :
      Passes call operation move before after standing .away

variable {store : Store} {call : CallId} {operation : Operation} {move : Move}

theorem Aside.passes {next : Store × Stage} (aside : Aside call store next) :
    Passes call operation move store next.1 .away next.2.standing := by
  rw [aside.standing]
  exact .stays .away aside.access

theorem passes_atLock (access : AccessKey) (flight : FlightId) :
    Passes call operation move store (store.atLock call operation access flight).1
      (.waiting access flight) (store.atLock call operation access flight).2.standing := by
  unfold atLock
  split
  · exact .stays _ rfl
  · rename_i holds
    split
    · rename_i allowed decided
      have aside := aside_decided
        { store with access.flights := store.access.flights.leave flight call } call operation
        access allowed
      rw [aside.standing]
      exact .reads access flight aside.access (by simp [decided])
    · rename_i undecided
      exact .asks access flight undecided (by simpa using holds) rfl rfl

theorem passes_located (access : AccessKey) :
    Passes call operation move store (store.located call operation access).1 .away
      (store.located call operation access).2.standing := by
  unfold located
  split
  · exact (aside_decided store call operation access _).passes
  · rename_i undecided
    simp only [atLock, undecided]
    split
    · rename_i waits
      exact .joins access undecided rfl (by simpa using waits)
    · rename_i holds
      exact .asksAtOnce access undecided (by simpa using holds) rfl rfl

theorem passes_reviewed (access : AccessKey) (flight : FlightId) (result : Except Error Bool)
    (answered : move = .answer call (.review result)) :
    Passes call operation move store (store.reviewed call operation access flight result).1
      (.reviewing access flight)
      (store.reviewed call operation access flight result).2.standing := by
  cases result with
  | ok allowed =>
      have aside := aside_decided
        { store with
          access.decisions := store.access.decisions.insert access allowed
          access.flights := (store.access.flights.strike access flight).leave flight call }
        call operation access allowed
      unfold reviewed
      rw [aside.standing]
      exact .decides access flight allowed answered aside.access
  | error error => exact .fails access flight error answered rfl

/-- Entering the gate, whatever it looks like by now. -/
theorem passes_enter (gate : Gate) :
    Passes call operation move store ({ store with gate }.enter call operation).1 .away
      ({ store with gate }.enter call operation).2.standing := by
  have ofAside : ∀ {next : Store × Stage}, Aside call { store with gate } next →
      Passes call operation move store next.1 .away next.2.standing := by
    intro next aside
    rw [aside.standing]
    exact .stays .away aside.access
  cases operation with
  | unwatch kinds => exact ofAside (aside_unwatchNext _ call _ store.client kinds)
  | isLoading key =>
      unfold enter
      exact ofAside (aside_finish _ call _ _)
  | reset => exact .forgets rfl rfl
  | changeClient client => exact .reconnects client rfl
  | _ => exact ofAside (aside_locate _ call _ _)

theorem passes_begin :
    Passes call operation move store (store.begin call operation).1 .away
      (store.begin call operation).2.standing := by
  unfold begin
  split
  · exact passes_enter store.gate
  · simp only
    split
    · exact passes_enter _
    · exact .stays .away rfl

theorem passes_answered (client : ClientId) (request : Request) (purpose : Purpose)
    (answer : Answer) (answered : move = .answer call answer) :
    Passes call operation move store
      (store.answered call operation client request purpose answer).1
      (Stage.asking client request purpose).standing
      (store.answered call operation client request purpose answer).2.standing := by
  unfold Store.answered
  split
  · split
    · exact passes_located _
    · exact (aside_finish store call operation _).passes
    · exact (aside_finish store call operation _).passes
  · exact passes_reviewed _ _ _ answered
  · split
    · exact (aside_mapped store call operation _).passes
    · exact (aside_finish store call operation _).passes
  · split
    · rename_i kind rest _ resource
      exact ((aside_unwatchNext (store.forgetKind kind resource) call operation client rest).after
        store call rfl rfl).passes
    · exact (aside_unwatchNext store call operation client _).passes
  · split
    · exact (aside_changed store call operation client _ _).passes
    · exact (aside_finish store call operation _).passes
  · split
    · exact (aside_finish store call operation _).passes
    · exact (aside_finish store call operation _).passes
  · exact .stays _ rfl

theorem passes_giveUp (stage : Stage) (given : move = .giveUp call) :
    Passes call operation move store (store.giveUp call stage) stage.standing .away := by
  cases stage with
  | queuing access flight => exact .leaves _ flight rfl rfl given
  | asking client request purpose =>
      cases purpose with
      | review access flight => exact .leaves _ flight rfl rfl given
      | _ => exact .stays .away rfl
  | _ => exact .stays .away rfl

end Store

/-! ## What passing the locks means for others -/

namespace Store.Passes

variable {call other : CallId} {operation : Operation} {move : Move} {before after : Store}
  {first last : Standing} {key : AccessKey} {flight : FlightId}

/-- Passing the locks takes no lock away from another call. -/
theorem isHolder (passes : Passes call operation move before after first last)
    (different : other ≠ call) (holds : before.access.flights.isHolder flight other = true) :
    after.access.flights.isHolder flight other = true := by
  cases passes with
  | stays standing access => rwa [access]
  | forgets isReset access => rwa [access]
  | reconnects client access => rwa [access]
  | joins joined undecided access =>
      rw [access]
      exact Flights.isHolder_join holds joined call
  | asksAtOnce joined undecided _ access =>
      rw [access]
      exact Flights.isHolder_join holds joined call
  | asks asked lock undecided _ access => rwa [access]
  | reads asked lock access | leaves _ lock _ access =>
      rw [access]
      exact Flights.isHolder_leave_of_ne holds lock different
  | decides asked lock allowed _ access | fails asked lock error _ access =>
      rw [access]
      exact Flights.isHolder_leave_of_ne (by rwa [Flights.isHolder_strike]) lock different

/-- A lock leaves the register only if a review of its key succeeds or fails. -/
theorem register (passes : Passes call operation move before after first last)
    (registered : before.access.flights.register.get? key = some flight) :
    after.access.flights.register.get? key = some flight ∨
      ∃ struck, first = .reviewing key struck ∧
        (after.access.decisions.get? key ≠ none ∨
          ∃ error, move = .answer call (.review (.error error))) := by
  cases passes with
  | stays standing access => exact Or.inl (by rwa [access])
  | forgets isReset access => exact Or.inl (by rwa [access])
  | reconnects client access => exact Or.inl (by rwa [access])
  | joins joined undecided access =>
      rw [access]
      exact Or.inl (Flights.register_join_of_some registered joined call)
  | asksAtOnce joined undecided _ access =>
      rw [access]
      exact Or.inl (Flights.register_join_of_some registered joined call)
  | asks asked lock undecided _ access => exact Or.inl (by rwa [access])
  | reads asked lock access | leaves _ lock _ access => exact Or.inl (by rwa [access])
  | decides asked lock allowed _ access =>
      rw [access]
      by_cases same : asked = key
      · subst same
        exact Or.inr ⟨lock, rfl, Or.inl (by simp)⟩
      · exact Or.inl (Flights.register_strike_of_some registered (Or.inl (Ne.symm same)))
  | fails asked lock error answered access =>
      rw [access]
      by_cases same : asked = key
      · subst same
        exact Or.inr ⟨lock, rfl, Or.inr ⟨error, answered⟩⟩
      · exact Or.inl (Flights.register_strike_of_some registered (Or.inl (Ne.symm same)))

/-- Decisions are made by the answer to a review. -/
theorem decision {allowed : Bool} (passes : Passes call operation move before after first last)
    (known : after.access.decisions.get? key = some allowed) :
    before.access.decisions.get? key = some allowed ∨
      ∃ flight, first = .reviewing key flight ∧ move = .answer call (.review (.ok allowed)) := by
  cases passes with
  | forgets isReset access =>
      rw [access] at known
      cases known
  | decides asked lock answer answered access =>
      rw [access] at known
      simp only [Table.get?_insert] at known
      split at known
      · rename_i same
        cases known
        rw [same]
        exact Or.inr ⟨lock, rfl, answered⟩
      · exact Or.inl known
  | stays standing access | reconnects client access | joins joined undecided access
  | asksAtOnce joined undecided holds access sent | asks asked lock undecided holds access sent
  | reads asked lock access | fails asked lock error answered access
  | leaves _ lock atLock access =>
      rw [access] at known
      exact Or.inl known

/-- Who begins to review holds the lock of an undecided key and has sent the request. Unless it has
waited, it has joined the lock on the register. -/
theorem reviewing (passes : Passes call operation move before after first (.reviewing key flight)) :
    (first = .reviewing key flight ∧ after.access = before.access) ∨
      (before.access.decisions.get? key = none ∧
        after.access.flights.isHolder flight call = true ∧
        after.journal = .sent before.access.client (.review key) :: before.journal ∧
        (after.access.flights.register.get? key = some flight ∨
          first = .waiting key flight ∧ after.access = before.access)) := by
  cases passes with
  | stays standing access => exact Or.inl ⟨rfl, access⟩
  | asksAtOnce joined undecided holds access sent =>
      refine Or.inr ⟨undecided, by rwa [access], sent, Or.inl ?_⟩
      rw [access]
      exact Flights.register_join_self _ key call
  | asks asked lock undecided holds access sent =>
      exact Or.inr ⟨undecided, by rwa [access], sent, Or.inr ⟨rfl, access⟩⟩

/-- Who begins to wait has joined the lock on the register. -/
theorem waiting (passes : Passes call operation move before after first (.waiting key flight)) :
    (first = .waiting key flight ∧ after.access = before.access) ∨
      after.access.flights.register.get? key = some flight := by
  cases passes with
  | stays standing access => exact Or.inl ⟨rfl, access⟩
  | joins joined undecided access =>
      rw [access]
      exact Or.inr (Flights.register_join_self _ key call)

end Store.Passes

theorem Call.passes_next (store : Store) (call : CallId) (current : Call) (move : Move)
    (own : ∀ other, (∃ answer, move = .answer other answer) ∨ move = .giveUp other →
      other = call) :
    Store.Passes call current.operation move store (current.next store call move).1
      current.stage.standing (current.next store call move).2.standing := by
  obtain ⟨operation, stage⟩ := current
  cases move with
  | enter other =>
      cases stage with
      | arriving =>
          simp only [Call.next]
          split
          · exact Store.passes_enter store.gate
          · exact .stays .away rfl
      | _ => exact .stays _ rfl
  | takeLock other =>
      cases stage with
      | queuing access flight => exact Store.passes_atLock access flight
      | _ => exact .stays _ rfl
  | answer other answer =>
      cases stage with
      | asking client request purpose =>
          rw [own other (Or.inl ⟨answer, rfl⟩)]
          exact Store.passes_answered client request purpose answer rfl
      | _ => exact .stays _ rfl
  | giveUp other =>
      simp only [Call.next]
      split
      · rw [own other (Or.inr rfl)]
        exact Store.passes_giveUp stage rfl
      · exact .stays _ rfl
  | _ => exact .stays _ rfl

theorem Call.next_of_reviewing {store : Store} {call other : CallId} {current : Call}
    {key : AccessKey} {flight : FlightId} (reviews : current.stage.standing = .reviewing key flight)
    (result : Except Error Bool) :
    current.next store call (.answer other (.review result)) =
      store.reviewed call current.operation key flight result := by
  obtain ⟨operation, stage⟩ := current
  cases stage with
  | asking client request purpose =>
      cases purpose with
      | review access lock =>
          cases reviews
          rfl
      | _ => cases reviews
  | _ => cases reviews

/-- A review that succeeds decides, and nothing of it is left in flight. -/
theorem Store.reviewed_ok (store : Store) (call : CallId) (operation : Operation)
    (key : AccessKey) (flight : FlightId) (allowed : Bool) :
    (store.reviewed call operation key flight (.ok allowed)).1.access.decisions =
        store.access.decisions.insert key allowed ∧
      (store.reviewed call operation key flight (.ok allowed)).2.standing = .away := by
  have aside := aside_decided
    { store with
      access.decisions := store.access.decisions.insert key allowed
      access.flights := (store.access.flights.strike key flight).leave flight call }
    call operation key allowed
  exact ⟨congrArg AccessGate.decisions aside.access, aside.standing⟩

end ClusterCache
