import ClusterCache.Proofs.Store.Reading
import ClusterCache.Proofs.System.Admission
import ClusterCache.Proofs.System.Deliveries
import ClusterCache.Proofs.System.Ownership

/-!
# What a reset leaves behind

A reset passes the gate alone, so no other call that passes the gate is under way when it returns,
and all informers are stopped. Main statement: at this moment nothing is cached, and whatever is
cached, noted, told or read later owes nothing to what was there before, in whatever order calls,
loops and waiters go on. Only what is preset, and what a check outside the gate has asked, may be
older.
-/

namespace ClusterCache

/-- Nothing is cached, and every informer ever started is stopped. -/
structure Store.Blank (store : Store) : Prop where
  stopped : ∀ {id}, id < store.informers.started.length → store.informers.isStopped id = true
  current : store.informers.current = Table.empty
  registry : store.informers.tokens.current = Table.empty
  decisions : store.access.decisions = Table.empty
  loading : store.loading = Loading.empty
  usage : store.usage = Usage.empty

theorem Stage.isUnderWay_of_reviewing {stage : Stage} {key : AccessKey} {flight : FlightId}
    (stands : stage.standing = .reviewing key flight) : stage.isUnderWay = true := by
  cases stage <;> first | rfl | cases stands

theorem Operation.eq_checkAccess {operation : Operation} (outside : operation.passage? = none) :
    ∃ key verb, operation = .checkAccess key verb := by
  cases operation with
  | checkAccess key verb => exact ⟨key, verb, rfl⟩
  | _ => cases outside

namespace System

variable {system : System} {call : CallId} {move : Move} {operation : Operation}

/-- By the move the operation returns to its caller. -/
def Returns (system : System) (move : Move) (call : CallId) (operation : Operation)
    (result : Except Error Outcome) : Prop :=
  (system.apply move).calls[call]? = some ⟨operation, .finished result⟩ ∧
    system.calls[call]? ≠ some ⟨operation, .finished result⟩

/-- By the move the call sends the request. -/
def Sends (system : System) (move : Move) (call : CallId) (request : Request) : Prop :=
  system.isMoveOf call move = true ∧ ∃ client,
    (system.apply move).store.journal = .sent client request :: system.store.journal

/-! ## Returning -/

theorem Returns.isMoveOf {result : Except Error Outcome}
    (returns : system.Returns move call operation result) : system.isMoveOf call move = true := by
  by_contra foreign
  have same := calls_of_not_isMoveOf (by simpa using foreign)
  exact returns.2 (same ▸ returns.1)

/-- What passes the gate alone returns as it enters. -/
theorem Admitted.entered_of_returns (admitted : system.Admitted)
    (alone : operation.passage? = some .alone) {result : Except Error Outcome}
    (returns : system.Returns move call operation result) :
    (system.arrived move).isInside call = true ∧
      (system.apply move).store =
        ({ system.store with gate := system.arrived move }.enter call operation).1 := by
  have own := returns.isMoveOf
  obtain ⟨after, unfinished⟩ := returns
  cases before : system.calls[call]? with
  | some earlier =>
      obtain ⟨stored, called⟩ := apply_of_isMoveOf before own
      rw [after] at called
      have idle : earlier.stage.isUnderWay = false := by
        refine admitted.brief before ?_
        rw [← congrArg Call.operation (Option.some.inj called)]
        exact alone
      obtain ⟨earlierOperation, stage⟩ := earlier
      cases stage with
      | arriving =>
          cases move with
          | enter other =>
              simp only [Call.next] at called stored
              split at called
              · rename_i isIn
                rw [if_pos isIn] at stored
                obtain rfl : operation = earlierOperation := operation_eq before after
                exact ⟨isIn, stored⟩
              · cases called
          | begin begun => exact absurd rfl (ne_begin_of_isMoveOf before own begun)
          | _ => cases called
      | queuing access flight | asking client request purpose => cases idle
      | finished earlierResult | dropped =>
          rw [Call.next_of_not_isPending system.store call rfl] at called
          rw [before, ← called] at unfinished
          exact absurd rfl unfinished
  | none =>
      obtain ⟨begun, rfl, stored, called⟩ := begin_of_isMoveOf before own
      have same : system.calls.length = call := by simpa [System.isMoveOf] using own
      rw [after] at called
      obtain rfl : operation = begun := congrArg Call.operation (Option.some.inj called)
      have stage := congrArg Call.stage (Option.some.inj called)
      simp only [Store.begin, alone] at stage stored
      simp only [arrived, Store.arrived, same]
      rw [alone]
      split at stage
      · rename_i isIn
        rw [if_pos isIn] at stored
        exact ⟨isIn, stored⟩
      · cases stage

/-- Nobody else is inside when an operation that passes the gate alone returns. -/
theorem Admitted.inside_of_returns (admitted : system.Admitted)
    (alone : operation.passage? = some .alone) {result : Except Error Outcome}
    (returns : system.Returns move call operation result) :
    (system.arrived move).inside = [(call, .alone)] := by
  obtain ⟨entered, _⟩ := admitted.entered_of_returns alone returns
  obtain ⟨granted, member⟩ := Gate.isInside_iff.1 entered
  obtain ⟨known, knownCalled, knownPasses⟩ := admitted.known_arrived (Or.inl member)
  rw [returns.1] at knownCalled
  cases knownCalled
  rw [alone] at knownPasses
  cases knownPasses
  exact admitted.exclusive_arrived move call member

/-- When an operation that passes the gate alone has returned, no other that passes the gate is
under way. -/
theorem Admitted.idle_of_returns (admitted : system.Admitted)
    (alone : operation.passage? = some .alone) {result : Except Error Outcome}
    (returns : system.Returns move call operation result) {other : CallId} {current : Call}
    (called : (system.apply move).calls[other]? = some current)
    (gated : current.operation.passage? ≠ none) : current.stage.isUnderWay = false := by
  by_cases same : other = call
  · subst same
    rw [returns.1] at called
    cases called
    rfl
  · by_contra underWay
    obtain ⟨passage, passes⟩ := Option.ne_none_iff_exists'.1 gated
    have foreign : system.isMoveOf other move = false := by
      by_contra moves
      exact same (isMoveOf_unique (by simpa using moves) returns.isMoveOf)
    rw [calls_of_not_isMoveOf foreign] at called
    have isIn := mem_inside_arrived
      (admitted.inside called passes (by simpa using underWay)) move
    rw [admitted.inside_of_returns alone returns] at isIn
    exact same (congrArg Prod.fst (List.mem_singleton.1 isIn))

theorem Admitted.blank_of_returns (admitted : system.Admitted)
    (owned : system.store.informers.Owned) {result : Except Error Outcome}
    (returns : system.Returns move call .reset result) : (system.apply move).store.Blank := by
  obtain ⟨_, stored⟩ := admitted.entered_of_returns rfl returns
  have holdings : (system.apply move).store.holdings = system.store.reset.holdings := by
    rw [stored, Store.holdings_enter]
    rfl
  have informers : (system.apply move).store.informers = system.store.informers.stopAll.1 :=
    congrArg Holdings.informers holdings
  have access : (system.apply move).store.access = system.store.reset.access := by
    rw [stored]
    exact Store.access_finish _ call _ _
  constructor
  case stopped =>
    intro id used
    rw [informers] at used ⊢
    exact owned.isStopped_stopAll used
  case current => rw [informers]; rfl
  case registry => rw [informers]; rfl
  case decisions => rw [access]; rfl
  case loading => exact congrArg Holdings.loading holdings
  case usage => exact congrArg Holdings.usage holdings

/-! ## Afterwards -/

/-- Whatever there is after the moves owes nothing to what was there before them. -/
structure OwesNothing (fresh : System) (later : List Move) : Prop where
  /-- Informers that were started before stay stopped. -/
  stopped : ∀ {id}, id < fresh.store.informers.started.length →
    (fresh.run later).store.informers.isStopped id = true
  /-- A decision was preset, or it is the answer to a review. Unless a check outside the gate has
  asked for the review, it was sent since. -/
  decisions : ∀ {key allowed},
    (fresh.run later).store.access.decisions.get? key = some allowed →
    ∃ first deciding rest, later = first ++ deciding :: rest ∧
      (deciding = .presetDecision key allowed ∨
        ∃ call current, deciding = .answer call (.review (.ok allowed)) ∧
          (fresh.run first).Reviews key call ∧
          (fresh.run first).calls[call]? = some current ∧
          ((∃ asked verb, current.operation = .checkAccess asked verb) ∨
            ∃ before asking between, first = before ++ asking :: between ∧
              (fresh.run before).Sends asking call (.review key)))
  /-- Waiters that were started before note nothing. -/
  waiters : ∀ {number}, number < fresh.store.waitersStarted →
    ((fresh.run later).apply (.wake number)).store.loading = (fresh.run later).store.loading
  /-- Handlers that were registered before are told nothing. -/
  handlers : ∀ {watch : WatchId}, watch.owner < fresh.store.informers.started.length →
    fresh.heard watch later = []
  /-- Whoever is served is served by an informer that was started since. -/
  serves : ∀ key resource,
    fresh.store.informers.started.length ≤ ((fresh.run later).store.serve key resource).2
  /-- Whoever is returned objects reads them from the informer that serves him. -/
  reads : ∀ {move call operation outcome},
    (fresh.run later).Returns move call operation (.ok outcome) → outcome.isObjects = true →
    ∃ key resource, (fresh.run later).deed move = .serve key resource ∧
      operation.reading ((fresh.run later).store.serve key resource).1
        ((fresh.run later).store.serve key resource).2 = some outcome

/-- Everything that was there is stopped, and no call that passes the gate is under way. -/
structure Fresh (fresh : System) : Prop where
  blank : fresh.store.Blank
  numbered : fresh.store.informers.Numbered
  owned : fresh.store.informers.Owned
  waiters : ∀ waiter ∈ fresh.store.waiters,
    waiter.informer < fresh.store.informers.started.length
  idle : ∀ {call : CallId} {current : Call}, fresh.calls[call]? = some current →
    current.operation.passage? ≠ none → current.stage.isUnderWay = false

section Fresh

variable {fresh : System} (isFresh : fresh.Fresh) (later : List Move)

include isFresh

theorem Fresh.stopped {id : InformerId} (used : id < fresh.store.informers.started.length) :
    (fresh.run later).store.informers.isStopped id = true :=
  (persists_run fresh later).isStopped used (isFresh.blank.stopped used)

/-- A review by a call that passes the gate was sent since. -/
theorem Fresh.exists_sends {key : AccessKey} {current : Call}
    (reviews : (fresh.run later).Reviews key call)
    (called : (fresh.run later).calls[call]? = some current)
    (gated : current.operation.passage? ≠ none) :
    ∃ before asking between, later = before ++ asking :: between ∧
      (fresh.run before).Sends asking call (.review key) := by
  induction later using List.reverseRecOn generalizing current with
  | nil =>
      obtain ⟨same, flight, sameCalled, stands⟩ := reviews.called
      rw [called] at sameCalled
      cases sameCalled
      have underWay := Stage.isUnderWay_of_reviewing stands
      rw [isFresh.idle called gated] at underWay
      cases underWay
  | append_singleton moves move inductionHypothesis =>
      by_cases reviewed : (fresh.run moves).Reviews key call
      · obtain ⟨earlier, _, earlierCalled, _⟩ := reviewed.called
        have calledAfter := called
        rw [run_concat] at calledAfter
        have sameOperation := operation_eq earlierCalled calledAfter
        obtain ⟨before, asking, between, split, sends⟩ :=
          inductionHypothesis reviewed earlierCalled (sameOperation ▸ gated)
        exact ⟨before, asking, between ++ [move], by rw [split]; simp, sends⟩
      · refine ⟨moves, move, [], rfl, ?_⟩
        rw [run_concat] at reviews
        obtain ⟨flight, stands⟩ := reviews
        have own : (fresh.run moves).isMoveOf call move = true := by
          by_contra foreign
          rw [standing_of_not_isMoveOf (by simpa using foreign)] at stands
          exact reviewed ⟨flight, stands⟩
        obtain ⟨_, _, passes⟩ := passes_apply own
        rw [stands] at passes
        rcases passes.reviewing with ⟨before, _⟩ | ⟨_, _, sent, _⟩
        · exact absurd ⟨flight, before⟩ reviewed
        · exact ⟨own, _, sent⟩

theorem Fresh.decisions {key : AccessKey} {allowed : Bool}
    (known : (fresh.run later).store.access.decisions.get? key = some allowed) :
    ∃ first deciding rest, later = first ++ deciding :: rest ∧
      (deciding = .presetDecision key allowed ∨
        ∃ call current, deciding = .answer call (.review (.ok allowed)) ∧
          (fresh.run first).Reviews key call ∧
          (fresh.run first).calls[call]? = some current ∧
          ((∃ asked verb, current.operation = .checkAccess asked verb) ∨
            ∃ before asking between, first = before ++ asking :: between ∧
              (fresh.run before).Sends asking call (.review key))) := by
  induction later using List.reverseRecOn with
  | nil =>
      rw [run_nil, isFresh.blank.decisions] at known
      cases known
  | append_singleton moves move inductionHypothesis =>
      rw [run_concat] at known
      rcases decision_apply known with before | preset | ⟨call, answered, reviews⟩
      · obtain ⟨first, deciding, rest, split, decides⟩ := inductionHypothesis before
        exact ⟨first, deciding, rest ++ [move], by rw [split]; simp, decides⟩
      · exact ⟨moves, move, [], rfl, Or.inl preset⟩
      · obtain ⟨current, _, called, _⟩ := reviews.called
        refine ⟨moves, move, [], rfl, Or.inr ⟨call, current, answered, reviews, called, ?_⟩⟩
        by_cases gated : current.operation.passage? = none
        · exact Or.inl (Operation.eq_checkAccess gated)
        · exact Or.inr (isFresh.exists_sends moves reviews called gated)

theorem Fresh.loading_wake {number : Nat} (old : number < fresh.store.waitersStarted) :
    ((fresh.run later).apply (.wake number)).store.loading =
      (fresh.run later).store.loading := by
  simp only [apply, modify]
  split
  · rename_i waiter found
    have numbered : waiter.id = number := by simpa using List.find?_some found
    refine Store.loading_wake_of_stopped (isFresh.stopped later ?_)
    rcases (recruits_run isFresh.owned later).waiters waiter (List.mem_of_find?_eq_some found) with
      before | ⟨late, _⟩
    · exact isFresh.waiters waiter before
    · change fresh.store.waitersStarted ≤ waiter.id at late
      omega
  · rfl

theorem Fresh.heard_eq_nil {watch : WatchId}
    (old : watch.owner < fresh.store.informers.started.length) :
    fresh.heard watch later = [] := by
  induction later using List.reverseRecOn with
  | nil => rfl
  | append_singleton moves move inductionHypothesis =>
      rw [heard] at inductionHypothesis ⊢
      rw [collect_concat, inductionHypothesis, List.nil_append]
      cases move with
      | turn id =>
          by_cases owner : watch.owner = id
          · subst owner
            have nothing : (fresh.run moves).store.next? watch.owner = none := by
              simp [Store.next?, Surroundings.next?, Store.surroundings,
                isFresh.stopped moves old]
            exact Store.heardBy_turn_of_none nothing watch
          · exact Store.heardBy_turn_of_ne
              ((persists_run fresh moves).numbered isFresh.numbered) owner
      | _ => rfl

theorem Fresh.le_served (key : Key) (resource : ApiResource) :
    fresh.store.informers.started.length ≤ ((fresh.run later).store.serve key resource).2 := by
  change _ ≤ ((fresh.run later).store.informers.obtain resource).2.1
  unfold Informers.obtain
  split
  · rename_i id reused
    obtain ⟨_, going⟩ := Option.filter_eq_some_iff.1 reused
    by_contra old
    have stopped := isFresh.stopped later (Nat.lt_of_not_le old)
    simp [stopped] at going
  · exact (persists_run fresh later).started

end Fresh

/-- Objects are returned only by the answer that tells a call its resource. -/
theorem asking_of_returns {outcome : Outcome}
    (returns : system.Returns move call operation (.ok outcome))
    (objects : outcome.isObjects = true) :
    ∃ client request resource,
      system.calls[call]? = some ⟨operation, .asking client request .map⟩ ∧
        move = .answer call (.resource (.ok resource)) ∧
        (system.store.mapped call operation resource).2 = .finished (.ok outcome) := by
  have own := returns.isMoveOf
  obtain ⟨after, unfinished⟩ := returns
  cases before : system.calls[call]? with
  | some earlier =>
      obtain ⟨_, called⟩ := apply_of_isMoveOf before own
      rw [after] at called
      have pending : earlier.stage.isPending = true := by
        by_contra ended
        rw [Call.next_of_not_isPending system.store call (by simpa using ended)] at called
        exact unfinished (before.trans called.symm)
      have stage : (earlier.next system.store call move).2 = .finished (.ok outcome) :=
        (congrArg Call.stage (Option.some.inj called)).symm
      obtain rfl : operation = earlier.operation := congrArg Call.operation (Option.some.inj called)
      obtain ⟨client, request, other, resource, asking, rfl⟩ :=
        Call.asking_of_next stage objects pending
      have same : other = call := by simp_all [System.isMoveOf]
      subst same
      obtain ⟨operation, _⟩ := earlier
      cases asking
      exact ⟨client, request, resource, rfl, rfl, stage⟩
  | none =>
      obtain ⟨begun, rfl, _, called⟩ := begin_of_isMoveOf before own
      rw [after] at called
      have shown := system.store.hasShown_begin call begun
      have stage : .finished (.ok outcome) = (system.store.begin call begun).2 :=
        congrArg Call.stage (Option.some.inj called)
      rw [← stage, Stage.hasShown, objects] at shown
      cases shown

/-- Objects that are returned are read from the informer that serves the call by this move. -/
theorem reading_of_returns {outcome : Outcome}
    (returns : system.Returns move call operation (.ok outcome))
    (objects : outcome.isObjects = true) :
    ∃ key resource, system.deed move = .serve key resource ∧
      operation.reading (system.store.serve key resource).1
        (system.store.serve key resource).2 = some outcome := by
  obtain ⟨client, request, resource, called, rfl, returned⟩ := asking_of_returns returns objects
  obtain ⟨key, served, reading⟩ := system.store.reading_of_mapped call operation returned objects
  refine ⟨key, resource, ?_, reading⟩
  simp only [deed, called, ← served]
  rfl

/-! ## All runs -/

theorem Fresh.owesNothing {fresh : System} (isFresh : fresh.Fresh) (later : List Move) :
    fresh.OwesNothing later where
  stopped := isFresh.stopped later
  decisions := isFresh.decisions later
  waiters := isFresh.loading_wake later
  handlers := isFresh.heard_eq_nil later
  serves := isFresh.le_served later
  reads := reading_of_returns

/-- When a reset has returned, at whatever moment of a run, nothing is cached, and nothing that was
there reappears later. No handler that was registered at any moment before is called again. -/
theorem reset_leaves_nothing (config : StoreConfig) (client : ClientId) (earlier : List Move)
    (move : Move) (call : CallId) (result : Except Error Outcome)
    (returns : ((start config client).run earlier).Returns move call .reset result)
    (later : List Move) :
    ((start config client).run (earlier ++ [move])).store.Blank ∧
      ((start config client).run (earlier ++ [move])).OwesNothing later ∧
      ∀ first rest id subscription, earlier ++ [move] = first ++ rest →
        subscription ∈
          (((start config client).run first).store.informers.informer id).handlers.subscriptions →
        ((start config client).run (earlier ++ [move])).heard subscription.id later = [] := by
  have admitted := (admitted_start config client).run earlier
  have ownedStart : (start config client).store.informers.Owned :=
    Informers.owned_empty client config.ns
  have isFresh : ((start config client).run (earlier ++ [move])).Fresh := by
    constructor
    case blank =>
      rw [run_concat]
      exact admitted.blank_of_returns (owned_run ownedStart earlier) returns
    case numbered => exact numbered_run config client _
    case owned => exact owned_run ownedStart _
    case waiters => exact fun waiter member => waiter_used config client member
    case idle =>
      intro other current called gated
      rw [run_concat] at called
      exact admitted.idle_of_returns rfl returns called gated
  refine ⟨isFresh.blank, isFresh.owesNothing later, ?_⟩
  intro first rest id subscription split registered
  obtain ⟨issued, owner⟩ := Store.issued_of_mem (numbered_run config client first) registered
  refine isFresh.heard_eq_nil later ?_
  rw [owner, split, run_append]
  exact Nat.lt_of_lt_of_le issued.used (persists_run _ rest).started

/-! A run in which a reset has to wait for a list, after which services are listed again. -/

def serviceKey : Key := .ofScope "" "v1" "Service"

def serviceAccess : AccessKey := ⟨"", "", "services", Verb.list.text⟩

def serviceAnswer : Answer := .resource (.ok (.served "" "v1" "Service" "services"))

def serviceRun : List Move :=
  [.begin (.list serviceKey), .answer 0 serviceAnswer, .answer 0 (.review (.ok true)),
    .answer 0 serviceAnswer, .presetDecision ⟨"", "", "services", Verb.watch.text⟩ true,
    .begin (.watch serviceKey ⟨"services", []⟩ ⟨"", "v1", "services"⟩),
    .answer 1 serviceAnswer, .answer 1 serviceAnswer, .begin (.list serviceKey), .begin .reset,
    .answer 2 serviceAnswer, .answer 2 serviceAnswer]

def serviceRelist : List Move :=
  [.begin (.list serviceKey), .send 0 (.event .initDone), .answer 4 serviceAnswer, .turn 0,
    .answer 4 (.review (.ok false)), .wake 0]

theorem reset_leaves_nothing_services :
    ((start .standard 0).run serviceRun).Returns (.enter 3) 3 .reset (.ok .done) ∧
      ((start .standard 0).run serviceRun).store.access.decisions.get? serviceAccess =
        some true ∧
      (((start .standard 0).run (serviceRun ++ [.enter 3])).run
          serviceRelist).store.access.decisions.get? serviceAccess = some false ∧
      ((start .standard 0).run (serviceRun ++ [.enter 3])).store.Blank ∧
      ((start .standard 0).run (serviceRun ++ [.enter 3])).OwesNothing serviceRelist ∧
      ((start .standard 0).run (serviceRun ++ [.enter 3])).heard ⟨0, 0⟩ serviceRelist = [] := by
  have returns :
      ((start .standard 0).run serviceRun).Returns (.enter 3) 3 .reset (.ok .done) :=
    ⟨rfl, nofun⟩
  obtain ⟨blank, owesNothing, silent⟩ :=
    reset_leaves_nothing .standard 0 serviceRun (.enter 3) 3 (.ok .done) returns serviceRelist
  exact ⟨returns, rfl, rfl, blank, owesNothing,
    silent (serviceRun ++ [.enter 3]) [] 0 ⟨⟨0, 0⟩, serviceKey, ⟨"services", []⟩⟩
      (List.append_nil _).symm (List.mem_singleton.2 rfl)⟩

end System

end ClusterCache
