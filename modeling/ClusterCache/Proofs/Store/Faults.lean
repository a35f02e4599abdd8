import ClusterCache.Proofs.Store.Hurdles

/-!
# What goes wrong with an operation on objects

At each stage of an operation on objects something may go wrong: a kind is missing or cannot be
mapped, a review fails or denies, a name is missing, a request to read or to write fails, there is
nothing to change, or the change fails. Whatever it is ends the call, and nothing else ends it with
an error. The error that is returned is the fault itself if it is a denial, else the fault in the
one context of the operation.
-/

namespace ClusterCache

/-- How an operation that needs the verb on the key returns an error: a denial as it is, any other
error in one context. -/
def Error.returned (key : Key) (verb : Verb) : Error → Error
  | .accessDenied access => .accessDenied access
  | error => .context (verb.text ++ " " ++ key.text) error

theorem Operation.frame_of_need? {operation : Operation} {key : Key} {verb : Verb}
    (need : operation.need? = some (key, verb)) (error : Error) :
    operation.frame error = error.returned key verb := by
  cases operation <;> cases need <;> cases error <;> rfl

namespace Store

/-- By the move a call in the stage gets to know the decision on an access. -/
inductive Decides (store : Store) (call : CallId) (key : Key) (verb : Verb) :
    Stage → Move → AccessKey → Bool → Prop
  | known (client : ClientId) (request : Request) (resource : ApiResource) (allowed : Bool)
      (known : store.access.decisions.get? (key.access verb resource) = some allowed) :
      Decides store call key verb (.asking client request .locate)
        (.answer call (.resource (.ok resource))) (key.access verb resource) allowed
  /-- It was made by somebody else while the call waited at the lock. -/
  | made (access : AccessKey) (flight : FlightId) (allowed : Bool)
      (holds : store.access.flights.isHolder flight call = true)
      (known : store.access.decisions.get? access = some allowed) :
      Decides store call key verb (.queuing access flight) (.takeLock call) access allowed
  | reviewed (client : ClientId) (request : Request) (access : AccessKey) (flight : FlightId)
      (allowed : Bool) :
      Decides store call key verb (.asking client request (.review access flight))
        (.answer call (.review (.ok allowed))) access allowed

/-- What goes wrong with an operation that needs the verb on the key, as its call makes a move. -/
inductive Fault (store : Store) (call : CallId) (operation : Operation) (key : Key) (verb : Verb) :
    Stage → Move → Error → Prop
  | kindless (move : Move) (admitted : store.letsIn call .arriving move = true)
      (noKind : key.kind.isEmpty = true) :
      Fault store call operation key verb .arriving move
        (.mapping key.text "unable to check access for a key without a kind")
  | unlocated (client : ClientId) (request : Request) (error : Error) :
      Fault store call operation key verb (.asking client request .locate)
        (.answer call (.resource (.error error))) error
  | unreviewed (client : ClientId) (request : Request) (access : AccessKey) (flight : FlightId)
      (error : Error) :
      Fault store call operation key verb (.asking client request (.review access flight))
        (.answer call (.review (.error error))) (.fetch access error)
  | denied (stage : Stage) (move : Move) (access : AccessKey)
      (decides : store.Decides call key verb stage move access false) :
      Fault store call operation key verb stage move (.accessDenied access)
  | nameless (stage : Stage) (move : Move) (access : AccessKey)
      (decides : store.Decides call key verb stage move access true)
      (unnamed : ¬ operation.IsNamed) :
      Fault store call operation key verb stage move
        (.custom (key.text ++ " does not name an object"))
  | unmapped (client : ClientId) (request : Request) (error : Error) :
      Fault store call operation key verb (.asking client request .map)
        (.answer call (.resource (.error error))) error
  | unread (client : ClientId) (request : Request) (resource : ApiResource) (error : Error) :
      Fault store call operation key verb (.asking client request (.read resource))
        (.answer call (.object (.error error))) error
  /-- There is nothing to change. -/
  | absent (change : Object → Except Error Object) (updates : operation = .update key change)
      (client : ClientId) (request : Request) (resource : ApiResource) :
      Fault store call operation key verb (.asking client request (.read resource))
        (.answer call (.object (.ok none))) (.notFound key.text)
  | unchanged (change : Object → Except Error Object) (updates : operation = .update key change)
      (client : ClientId) (request : Request) (resource : ApiResource) (object : Object)
      (error : Error) (fails : change object = .error error) :
      Fault store call operation key verb (.asking client request (.read resource))
        (.answer call (.object (.ok (some object)))) error
  | unwritten (client : ClientId) (request : Request) (error : Error) :
      Fault store call operation key verb (.asking client request .write)
        (.answer call (.written (.error error))) error

section Steps

variable {store worked : Store} {call : CallId} {operation : Operation} {key : Key} {verb : Verb}
  {stage : Stage} {move : Move} {result : Error}

/-- Only a call that goes on can meet a fault. -/
theorem Fault.isPending {fault : Error}
    (faulty : store.Fault call operation key verb stage move fault) : stage.isPending = true := by
  cases faulty with
  | denied stage move access decides => cases decides <;> rfl
  | nameless stage move access decides unnamed => cases decides <;> rfl
  | _ => rfl

/-! ### Faults end calls -/

theorem stage_decided_nameless (need : operation.need? = some (key, verb))
    (unnamed : ¬ operation.IsNamed) (access : AccessKey) :
    (worked.decided call operation access true).2 =
      .finished (.error (operation.frame (.custom (key.text ++ " does not name an object")))) := by
  have noName : key.name? = none := by
    rw [Option.eq_none_iff_forall_ne_some]
    intro name named
    refine unnamed ?_
    cases operation with
    | get key | delete key | update key change =>
        cases need
        exact ⟨name, named⟩
    | _ => trivial
  cases operation with
  | get key | delete key | update key change =>
      cases need
      simp only [decided, askNamedMapping, Key.requireName, noName]
      rfl
  | _ => exact absurd trivial unnamed

/-- A decision that the call gets to know is acted on at once. -/
theorem Decides.next {access : AccessKey} {allowed : Bool}
    (decides : store.Decides call key verb stage move access allowed)
    (need : operation.need? = some (key, verb)) :
    ∃ worked : Store, (Call.next store call ⟨operation, stage⟩ move).2 =
      (worked.decided call operation access allowed).2 := by
  have demand := Operation.demand?_of_need? need
  cases decides with
  | known client request resource allowed known =>
      refine ⟨store, ?_⟩
      simp only [Call.next, answered, demand, located]
      rw [show store.access.decisions.get? ⟨key.ns, resource.group, resource.plural, verb.text⟩ =
        some allowed from known]
      rfl
  | made access flight allowed holds known =>
      refine ⟨{ store with access.flights := store.access.flights.leave flight call }, ?_⟩
      simp only [Call.next, atLock, holds, known]
      rfl
  | reviewed client request access flight allowed => exact ⟨_, rfl⟩

/-- Every fault ends the call, with the error that it is returned as. -/
theorem Fault.ends {fault : Error}
    (faulty : store.Fault call operation key verb stage move fault)
    (need : operation.need? = some (key, verb)) (begun : ∀ other, move ≠ .begin other) :
    (Call.next store call ⟨operation, stage⟩ move).2 =
      .finished (.error (operation.frame fault)) := by
  cases faulty with
  | kindless move admitted noKind =>
      cases move with
      | begin other => exact absurd rfl (begun other)
      | enter other =>
          have inside : store.gate.isInside call = true := admitted
          simp only [Call.next, inside, if_true, enter, Operation.demand?_of_need? need, locate,
            noKind]
          rfl
      | _ => cases admitted
  | unlocated client request error => rfl
  | unreviewed client request access flight error => rfl
  | denied stage move access decides =>
      obtain ⟨worked, next⟩ := decides.next need
      rw [next]
      rfl
  | nameless stage move access decides unnamed =>
      obtain ⟨worked, next⟩ := decides.next need
      rw [next, stage_decided_nameless need unnamed]
  | unmapped client request error => rfl
  | unread client request resource error => rfl
  | absent change updates client request resource =>
      subst updates
      rfl
  | unchanged change updates client request resource object error fails =>
      subst updates
      simp only [Call.next, answered, changed, fails]
      rfl
  | unwritten client request error => rfl

/-! ### Nothing else ends calls with an error -/

theorem fault_of_decided {access : AccessKey} {allowed : Bool}
    (decides : store.Decides call key verb stage move access allowed)
    (need : operation.need? = some (key, verb))
    (ended : (worked.decided call operation access allowed).2 = .finished (.error result)) :
    ∃ fault, store.Fault call operation key verb stage move fault ∧
      result = operation.frame fault := by
  cases allowed with
  | false =>
      cases ended
      exact ⟨_, .denied stage move access decides, rfl⟩
  | true =>
      by_cases named : operation.IsNamed
      · -- With access and, where it is needed, a name, the call asks for the mapping.
        have asks : (worked.decided call operation access true).2 =
            .asking worked.client (.resource key.groupVersionKind) .map := by
          cases operation with
          | list key | watch key listener type =>
              cases need
              rfl
          | get key | delete key | update key change =>
              cases need
              obtain ⟨name, named⟩ := named
              simp only [decided, askNamedMapping, Key.requireName, named]
              rfl
          | _ => cases need
        rw [asks] at ended
        cases ended
      · rw [stage_decided_nameless need named] at ended
        cases ended
        exact ⟨_, .nameless stage move access decides named, rfl⟩

theorem fault_of_atLock {access : AccessKey} {flight : FlightId}
    (decides : ∀ allowed, worked.access.flights.isHolder flight call = true →
      worked.access.decisions.get? access = some allowed →
      store.Decides call key verb stage move access allowed)
    (need : operation.need? = some (key, verb))
    (ended : (worked.atLock call operation access flight).2 = .finished (.error result)) :
    ∃ fault, store.Fault call operation key verb stage move fault ∧
      result = operation.frame fault := by
  unfold atLock at ended
  split at ended
  · cases ended
  · rename_i holds
    split at ended
    · rename_i allowed known
      exact fault_of_decided (decides allowed (by simpa using holds) known) need ended
    · cases ended

theorem fault_of_located {client : ClientId} {request : Request} {resource : ApiResource}
    (need : operation.need? = some (key, verb))
    (ended : (store.located call operation (key.access verb resource)).2 =
      .finished (.error result)) :
    ∃ fault, store.Fault call operation key verb (.asking client request .locate)
      (.answer call (.resource (.ok resource))) fault ∧ result = operation.frame fault := by
  unfold located at ended
  split at ended
  · rename_i allowed known
    exact fault_of_decided (.known client request resource allowed known) need ended
  · rename_i unknown
    -- Whoever has just joined the line finds no decision that was not there before.
    refine fault_of_atLock (fun allowed _ known => ?_) need ended
    exact .known client request resource allowed known

/-- With a mapping, an operation on objects is served or goes on. -/
theorem stage_mapped_ne (need : operation.need? = some (key, verb)) (resource : ApiResource) :
    (store.mapped call operation resource).2 ≠ .finished (.error result) := by
  intro ended
  cases operation with
  | list key | get key | watch key listener type | delete key | update key change => cases ended
  | _ => cases need

theorem fault_of_changed {client : ClientId} {request : Request} {resource : ApiResource}
    {object? : Option Object} (need : operation.need? = some (key, verb))
    (ended : (store.changed call operation client resource object?).2 =
      .finished (.error result)) :
    ∃ fault, store.Fault call operation key verb (.asking client request (.read resource))
      (.answer call (.object (.ok object?))) fault ∧ result = operation.frame fault := by
  unfold changed at ended
  split at ended
  · rename_i changedKey change
    cases need
    split at ended
    · cases ended
      exact ⟨_, .absent change rfl client request resource, rfl⟩
    · rename_i object
      split at ended
      · rename_i error fails
        cases ended
        exact ⟨_, .unchanged change rfl client request resource object error fails, rfl⟩
      · cases ended
  · unfold finish at ended
    cases ended

theorem fault_of_enter (need : operation.need? = some (key, verb))
    (admitted : store.letsIn call .arriving move = true)
    (ended : (worked.enter call operation).2 = .finished (.error result)) :
    ∃ fault, store.Fault call operation key verb .arriving move fault ∧
      result = operation.frame fault := by
  simp only [enter, Operation.demand?_of_need? need, locate] at ended
  split at ended
  · rename_i noKind
    cases ended
    exact ⟨_, .kindless move admitted noKind, rfl⟩
  · cases ended

theorem fault_of_answered {client : ClientId} {request : Request} {purpose : Purpose}
    {answer : Answer} (need : operation.need? = some (key, verb))
    (ended : (store.answered call operation client request purpose answer).2 =
      .finished (.error result)) :
    ∃ fault, store.Fault call operation key verb (.asking client request purpose)
      (.answer call answer) fault ∧ result = operation.frame fault := by
  have demand := Operation.demand?_of_need? need
  unfold answered at ended
  split at ended
  · rw [demand] at ended
    split at ended
    · rename_i located
      cases located
      exact fault_of_located need ended
    · rename_i missing
      cases missing
    · cases ended
      exact ⟨_, .unlocated client request _, rfl⟩
  · rename_i access flight reviewed
    cases reviewed with
    | ok allowed =>
        exact fault_of_decided (.reviewed client request access flight allowed) need ended
    | error error =>
        cases ended
        exact ⟨_, .unreviewed client request access flight error, rfl⟩
  · split at ended
    · exact absurd ended (stage_mapped_ne need _)
    · rename_i error
      cases ended
      exact ⟨_, .unmapped client request error, rfl⟩
  -- To stop watching kinds goes on to the next kind, or ends well.
  · rename_i kind rest mapped
    cases mapped <;> cases rest <;> cases ended
  · rename_i resource read
    cases read with
    | ok object? => exact fault_of_changed need ended
    | error error =>
        cases ended
        exact ⟨_, .unread client request resource error, rfl⟩
  · rename_i written
    cases written with
    | ok done => cases ended
    | error error =>
        cases ended
        exact ⟨_, .unwritten client request error, rfl⟩
  · cases ended

/-- Nothing but a fault ends a call on objects with an error. -/
theorem fault_of_next (need : operation.need? = some (key, verb))
    (own : ∀ other, move = .takeLock other ∨ (∃ answer, move = .answer other answer) →
      other = call)
    (pending : stage.isPending = true)
    (ended : (Call.next store call ⟨operation, stage⟩ move).2 = .finished (.error result)) :
    ∃ fault, store.Fault call operation key verb stage move fault ∧
      result = operation.frame fault := by
  -- A move that is not possible leaves the call where it is, and there it goes on.
  have stays : stage ≠ .finished (.error result) := by
    rintro rfl
    cases pending
  cases move with
  | enter other =>
      cases stage with
      | arriving =>
          by_cases inside : store.gate.isInside call = true
          · simp only [Call.next, inside, if_true] at ended
            exact fault_of_enter need inside ended
          · simp only [Call.next, inside] at ended
            cases ended
      | _ => exact absurd ended stays
  | takeLock other =>
      cases stage with
      | queuing access flight =>
          rw [own other (Or.inl rfl)]
          exact fault_of_atLock (fun allowed => .made access flight allowed) need ended
      | _ => exact absurd ended stays
  | answer other answer =>
      cases stage with
      | asking client request purpose =>
          rw [own other (Or.inr ⟨answer, rfl⟩)]
          exact fault_of_answered need ended
      | _ => exact absurd ended stays
  | giveUp other =>
      simp only [Call.next, pending, if_true] at ended
      cases ended
  | _ => exact absurd ended stays

/-! ### Calls that begin -/

theorem begin_of_need (need : operation.need? = some (key, verb)) :
    store.begin call operation =
      if store.letsIn call .arriving (.begin operation) then
        { store with gate := store.gate.arrive call .shared }.enter call operation
      else ({ store with gate := store.gate.arrive call .shared }, .arriving) := by
  have shared : operation.passage? = some .shared := by
    cases operation <;> cases need <;> rfl
  simp only [begin, shared]
  rfl

theorem Fault.ends_begin {fault : Error}
    (faulty : store.Fault call operation key verb .arriving (.begin operation) fault)
    (need : operation.need? = some (key, verb)) :
    (store.begin call operation).2 = .finished (.error (operation.frame fault)) := by
  cases faulty with
  | kindless move admitted noKind =>
      rw [begin_of_need need, if_pos admitted]
      simp only [enter, Operation.demand?_of_need? need, locate, noKind]
      rfl
  | denied stage move access decides => cases decides
  | nameless stage move access decides unnamed => cases decides

theorem fault_of_begin (need : operation.need? = some (key, verb))
    (ended : (store.begin call operation).2 = .finished (.error result)) :
    ∃ fault, store.Fault call operation key verb .arriving (.begin operation) fault ∧
      result = operation.frame fault := by
  rw [begin_of_need need] at ended
  split at ended
  · rename_i admitted
    exact fault_of_enter need admitted ended
  · cases ended

end Steps

end Store

end ClusterCache
