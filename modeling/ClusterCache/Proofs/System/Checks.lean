import ClusterCache.Connection.Basic
import ClusterCache.Proofs.Store.Checks
import ClusterCache.Proofs.System.Connections
import ClusterCache.Proofs.System.Locks

/-!
# What a check of access returns

Checks of access run beside each other and beside everything else that the store does. Main
statement: as long as nobody is given up, a check returns a verdict only on a decision about exactly
the access that it asks for, which was known at that moment or came from its own review; a review
that fails tells its own caller only, decides nothing and hands its lock on; and the register of
locks lists nothing but reviews in flight.
-/

namespace ClusterCache

/-! ## What discovery reports -/

namespace Connection

/-- The errors with which a connection answers which resource serves a kind. -/
def Reports (error : Error) : Prop :=
  (∃ key message, error = .mapping key message) ∨ ∃ failure, error = .request failure

theorem reports_discoveryError (kind : GroupVersionKind) (failure : RequestFailure) :
    Reports (discoveryError kind failure) := by
  unfold discoveryError
  split
  · exact Or.inl ⟨_, _, rfl⟩
  · split
    · exact Or.inl ⟨_, _, rfl⟩
    · exact Or.inr ⟨_, rfl⟩
  · exact Or.inr ⟨_, rfl⟩

/-- Whatever the connection and the reply, discovery neither denies access nor reports a review. -/
theorem reports_of_discovery (connection : Connection) (kind : GroupVersionKind) (error : Error) :
    (connection.begin (.resource kind) = .answered (.resource (.error error)) →
      Reports error) ∧
      ∀ reply, (connection.conclude (.resource kind) reply).2 = .resource (.error error) →
        Reports error := by
  constructor
  · intro answered
    unfold begin at answered
    simp only at answered
    split at answered
    · cases answered
    · split at answered
      · cases answered
      · cases answered
        exact Or.inr ⟨_, rfl⟩
  · intro reply answered
    simp only [conclude, discover] at answered
    split at answered
    · cases answered
    · rename_i failure _
      cases answered
      exact reports_discoveryError kind failure

end Connection

namespace System

variable {system : System} {call : CallId} {move : Move} {moves : List Move} {key : Key}
  {verb : String} {access : AccessKey}

/-! ## Which access a check asks for -/

/-- The check learned from its own question as which resource its kind is served, and this makes the
access. -/
def Located (system : System) (moves : List Move) (call : CallId) (key : Key) (verb : String)
    (access : AccessKey) : Prop :=
  ∃ first rest client resource,
    moves = first ++ .answer call (.resource (.ok resource)) :: rest ∧
      (system.run first).stage? call =
        some (.asking client (.resource key.groupVersionKind) .locate) ∧
      access = key.checked verb resource

theorem Located.concat (located : system.Located moves call key verb access) (move : Move) :
    system.Located (moves ++ [move]) call key verb access := by
  obtain ⟨first, rest, client, resource, split, asked, same⟩ := located
  exact ⟨first, rest ++ [move], client, resource, by simp [split], asked, same⟩

/-- What is known of a check in a stage. -/
structure Checked (system : System) (moves : List Move) (call : CallId) (key : Key) (verb : String)
    (stage : Stage) : Prop where
  isCheck : stage.IsCheck
  asks : ∀ client request, stage = .asking client request .locate →
    request = .resource key.groupVersionKind
  located : ∀ access flight, stage.standing.place? = some (access, flight) →
    system.Located moves call key verb access

theorem Checked.concat {stage : Stage} (checked : system.Checked moves call key verb stage)
    (move : Move) : system.Checked (moves ++ [move]) call key verb stage where
  isCheck := checked.isCheck
  asks := checked.asks
  located access flight place := (checked.located access flight place).concat move

theorem checked_of_ended {stage : Stage} (ended : stage.isPending = false) :
    system.Checked moves call key verb stage := by
  cases stage with
  | finished result | dropped => exact ⟨trivial, (fun _ _ same => by cases same), nofun⟩
  | _ => cases ended

theorem checks_apply (own : system.isMoveOf call move = true) {stage : Stage}
    (called : (system.apply move).calls[call]? = some ⟨.checkAccess key verb, stage⟩)
    (isCheck : (system.stood call).IsCheck) :
    system.store.Checks call key verb move (system.stood call) stage := by
  cases before : system.calls[call]? with
  | some earlier =>
      obtain ⟨_, calledAfter⟩ := apply_of_isMoveOf before own
      obtain ⟨operation, stood⟩ := earlier
      rw [called] at calledAfter
      obtain rfl : .checkAccess key verb = operation :=
        congrArg Call.operation (Option.some.inj calledAfter)
      have next := congrArg Call.stage (Option.some.inj calledAfter)
      rw [stood_of_calls before] at isCheck ⊢
      simp only at next
      rw [next]
      refine Call.checks_next system.store call isCheck move ?_
      rintro other answer rfl
      simp only [isMoveOf, Bool.and_eq_true, decide_eq_true_eq] at own
      exact own.1
  | none =>
      obtain ⟨operation, rfl, _, calledAfter⟩ := begin_of_isMoveOf before own
      rw [called] at calledAfter
      obtain rfl : .checkAccess key verb = operation :=
        congrArg Call.operation (Option.some.inj calledAfter)
      have next := congrArg Call.stage (Option.some.inj calledAfter)
      have arrives : system.stood call = .arriving := by simp [stood, stage?, before]
      simp only at next
      rw [arrives, next]
      exact Store.checks_begin system.store

theorem Checked.apply (checked : system.Checked moves call key verb
      ((system.run moves).stood call)) {stage : Stage}
    (checks : (system.run moves).store.Checks call key verb move ((system.run moves).stood call)
      stage) : system.Checked (moves ++ [move]) call key verb stage := by
  generalize stands : (system.run moves).stood call = stood at checks checked
  cases checks with
  | stays => exact checked.concat move
  | locates client =>
      refine ⟨trivial, ?_, nofun⟩
      intro other request same
      cases same
      rfl
  | lines client request resource answered next flight place isCheck =>
      refine ⟨isCheck, ?_, ?_⟩
      · intro other request same
        rw [same] at place
        cases place
      · intro access other placed
        rw [place] at placed
        cases placed
        obtain ⟨operation, called⟩ := called_of_stood stands nofun
        have asked := checked.asks client request rfl
        refine ⟨moves, [], client, resource, by rw [answered], ?_, rfl⟩
        rw [stage?, called, ← asked]
        rfl
  | asks access flight client =>
      refine ⟨trivial, (fun _ _ same => by cases same), ?_⟩
      intro other lock place
      cases place
      exact (checked.located access flight rfl).concat move
  | _ => exact checked_of_ended rfl

/-- A check that has moved was known before it. -/
theorem Checked.before {stage : Stage}
    (known : ∀ {stage}, (system.run moves).calls[call]? = some ⟨.checkAccess key verb, stage⟩ →
      system.Checked moves call key verb stage)
    (called : ((system.run moves).apply move).calls[call]? =
      some ⟨.checkAccess key verb, stage⟩) :
    system.Checked moves call key verb ((system.run moves).stood call) := by
  cases before : (system.run moves).calls[call]? with
  | none =>
      have arrives : (system.run moves).stood call = .arriving := by simp [stood, stage?, before]
      rw [arrives]
      exact ⟨trivial, (fun _ _ same => by cases same), (fun _ _ place => by cases place)⟩
  | some earlier =>
      obtain ⟨operation, stood⟩ := earlier
      obtain rfl : .checkAccess key verb = operation := operation_eq before called
      rw [stood_of_calls before]
      exact known before

theorem checked_run (config : StoreConfig) (client : ClientId) (moves : List Move) {stage : Stage}
    (called : ((start config client).run moves).calls[call]? =
      some ⟨.checkAccess key verb, stage⟩) :
    (start config client).Checked moves call key verb stage := by
  induction moves using List.reverseRecOn generalizing stage with
  | nil => cases called
  | append_singleton moves move inductionHypothesis =>
      rw [run_concat] at called
      by_cases own : ((start config client).run moves).isMoveOf call move = true
      · have before := Checked.before inductionHypothesis called
        exact before.apply (checks_apply own called before.isCheck)
      · rw [calls_of_not_isMoveOf (by simpa using own)] at called
        exact (inductionHypothesis called).concat move

/-! ## What a check returns -/

/-- The decision is about the access that the check asks for; it was known, or it is the answer to
the check's own review. -/
def DrawsOn (system : System) (moves : List Move) (move : Move) (call : CallId) (key : Key)
    (verb : String) (access : AccessKey) (allowed : Bool) : Prop :=
  system.Located (moves ++ [move]) call key verb access ∧
    ((system.run moves).store.access.decisions.get? access = some allowed ∨
      (system.run moves).Reviews access call ∧ move = .answer call (.review (.ok allowed)))

/-- Why a check returns what it does by a move. -/
inductive Explains (system : System) (moves : List Move) (move : Move) (call : CallId) (key : Key)
    (verb : String) : Except Error Outcome → Prop
  | kindless (noKind : key.kind = "") :
      Explains system moves move call key verb
        (.error (.mapping key.text "unable to check access for a key without a kind"))
  /-- It could not learn as which resource its kind is served. -/
  | unlocated (client : ClientId) (error : Error)
      (asked : (system.run moves).stage? call =
        some (.asking client (.resource key.groupVersionKind) .locate))
      (answered : move = .answer call (.resource (.error error))) :
      Explains system moves move call key verb (.error error)
  | decided (access : AccessKey) (allowed : Bool)
      (draws : system.DrawsOn moves move call key verb access allowed) :
      Explains system moves move call key verb (access.verdict allowed)
  /-- Its own review failed. -/
  | unreviewed (access : AccessKey) (located : system.Located moves call key verb access)
      (error : Error) (reviews : (system.run moves).Reviews access call)
      (answered : move = .answer call (.review (.error error))) :
      Explains system moves move call key verb (.error (.fetch access error))

theorem explains_of_returns (config : StoreConfig) (client : ClientId) (moves : List Move)
    {result : Except Error Outcome}
    (returns : ((start config client).run moves).Returns move call (.checkAccess key verb) result) :
    (start config client).Explains moves move call key verb result := by
  have own := returns.isMoveOf
  have before := Checked.before (checked_run config client moves) returns.1
  have checks := checks_apply own returns.1 before.isCheck
  generalize stands : ((start config client).run moves).stood call = stood at checks before
  generalize ended : Stage.finished result = next at checks
  have called : ∀ {stage}, stood = stage → stage ≠ .arriving →
      ((start config client).run moves).calls[call]? = some ⟨.checkAccess key verb, stage⟩ := by
    intro stage same begun
    subst same
    obtain ⟨operation, called⟩ := called_of_stood stands begun
    have same : .checkAccess key verb = operation := operation_eq called returns.1
    rw [same]
    exact called
  cases checks with
  | stays =>
      exact absurd (called ended.symm (by rintro ⟨⟩)) returns.2
  | kindless noKind =>
      cases ended
      exact .kindless (by simpa using noKind)
  | locates => cases ended
  | unlocated asked request error answered =>
      cases ended
      have sameRequest := before.asks asked request rfl
      refine .unlocated asked error ?_ answered
      rw [stage?, called rfl (by rintro ⟨⟩), ← sameRequest]
      rfl
  | knows asked request resource answered allowed known =>
      cases ended
      have sameRequest := before.asks asked request rfl
      refine .decided _ allowed ⟨⟨moves, [], asked, resource, by rw [answered], ?_, rfl⟩,
        Or.inl known⟩
      rw [stage?, called rfl (by rintro ⟨⟩), ← sameRequest]
      rfl
  | lines asked request resource answered next flight place =>
      rw [← ended] at place
      cases place
  | asks => cases ended
  | reads access flight allowed known =>
      cases ended
      exact .decided access allowed ⟨(before.located access flight rfl).concat move, Or.inl known⟩
  | decides asked request access flight allowed answered =>
      cases ended
      have reviews : ((start config client).run moves).Reviews access call :=
        ⟨flight, standing_of_calls (called rfl (by rintro ⟨⟩))⟩
      exact .decided access allowed
        ⟨(before.located access flight rfl).concat move, Or.inr ⟨reviews, answered⟩⟩
  | fails asked request access flight error answered =>
      cases ended
      exact .unreviewed access (before.located access flight rfl) error
        ⟨flight, standing_of_calls (called rfl (by rintro ⟨⟩))⟩ answered
  | drops => cases ended

/-- What a result of a check tells its caller about decisions and reviews. -/
structure Faithful (system : System) (moves : List Move) (move : Move) (call : CallId) (key : Key)
    (verb : String) (result : Except Error Outcome) : Prop where
  allowed : ∀ outcome, result = .ok outcome →
    ∃ access, system.DrawsOn moves move call key verb access true
  denied : ∀ access, result = .error (.accessDenied access) →
    system.DrawsOn moves move call key verb access false
  failed : ∀ access error, result = .error (.fetch access error) →
    system.Located moves call key verb access ∧ (system.run moves).Reviews access call ∧
      move = .answer call (.review (.error error))

theorem faithful_of_error {system : System} {error : Error}
    (denied : ∀ access, error ≠ .accessDenied access)
    (failed : ∀ access reason, error ≠ .fetch access reason) :
    system.Faithful moves move call key verb (.error error) where
  allowed _ same := nomatch same
  denied access same := absurd (Except.error.inj same) (denied access)
  failed access reason same := absurd (Except.error.inj same) (failed access reason)

/-- Nothing but a decision looks like one, and nothing but a failed review like one, since discovery
reports neither. -/
theorem Explains.faithful {system : System} {result : Except Error Outcome}
    (explains : system.Explains moves move call key verb result)
    (reports : ∀ error, move = .answer call (.resource (.error error)) →
      Connection.Reports error) :
    system.Faithful moves move call key verb result := by
  cases explains with
  | kindless noKind => exact faithful_of_error nofun nofun
  | unlocated client error asked answered =>
      obtain ⟨named, message, rfl⟩ | ⟨failure, rfl⟩ := reports error answered
      · exact faithful_of_error nofun nofun
      · exact faithful_of_error nofun nofun
  | decided access allowed draws =>
      cases allowed with
      | true =>
          exact ⟨fun _ _ => ⟨access, draws⟩, fun _ => (nomatch ·), fun _ _ => (nomatch ·)⟩
      | false =>
          refine ⟨fun _ => (nomatch ·), ?_, fun _ _ => (nomatch ·)⟩
          intro other same
          cases same
          exact draws
  | unreviewed access located error reviews answered =>
      refine ⟨fun _ => (nomatch ·), fun _ => (nomatch ·), ?_⟩
      intro other reason same
      cases same
      exact ⟨located, reviews, answered⟩

/-! ## Failed reviews and those who wait -/

/-- By the move the review fails. Its caller is told, nothing is decided and no other call is
touched; the lock goes to the first who waits. -/
structure FailsAlone (system : System) (move : Move) (call : CallId) (access : AccessKey)
    (error : Error) : Prop where
  decisions : (system.apply move).store.access.decisions = system.store.access.decisions
  reported : ∃ current, system.calls[call]? = some current ∧
    (system.apply move).calls[call]? =
      some ⟨current.operation, .finished (.error (current.operation.frame (.fetch access error)))⟩
  others : ∀ other, other ≠ call → (system.apply move).calls[other]? = system.calls[other]?
  handed : ∃ flight waiting, system.store.access.flights.line flight = call :: waiting ∧
    ∀ next, waiting.head? = some next →
      (system.apply move).store.access.flights.isHolder flight next = true

theorem failsAlone (orderly : system.Orderly)
    (holds : ∀ {flight}, system.standing call = .reviewing access flight →
      system.store.access.flights.isHolder flight call = true)
    (reviews : system.Reviews access call) {error : Error}
    (answered : move = .answer call (.review (.error error))) :
    system.FailsAlone move call access error := by
  obtain ⟨current, flight, called, stands⟩ := reviews.called
  subst answered
  have own := isMoveOf_answer called (.review (.error error))
  obtain ⟨stored, calledAfter⟩ := apply_of_isMoveOf called own
  rw [Call.next_of_reviewing stands] at stored calledAfter
  constructor
  case decisions =>
    rw [stored]
    rfl
  case reported => exact ⟨current, called, calledAfter⟩
  case others =>
    intro other different
    refine calls_of_not_isMoveOf ?_
    simp [isMoveOf, Ne.symm different]
  case handed =>
    have head := orderly.lined.isHolder_iff.1 (holds (standing_of_calls called ▸ stands))
    obtain ⟨waiting, line⟩ := List.head?_eq_some_iff.1 head
    refine ⟨flight, waiting, line, ?_⟩
    intro next isNext
    have after := orderly.apply (.answer call (.review (.error error)))
    rw [after.lined.isHolder_iff, stored]
    -- The line goes on without its head.
    have flights : (system.store.reviewed call current.operation access flight
        (.error error)).1.access.flights =
          (system.store.access.flights.strike access flight).leave flight call := rfl
    have struck := orderly.lined.strike access flight
    have distinct := orderly.lined.nodup_line flight
    rw [line] at distinct
    have others : waiting.filter (· ≠ call) = waiting := by
      refine List.filter_eq_self.2 fun other member => ?_
      have different : other ≠ call := by
        rintro rfl
        exact (List.nodup_cons.1 distinct).1 member
      simpa using different
    rw [flights, struck.line_leave_self flight call, Flights.line_strike, line,
      List.filter_cons_of_neg (by simp), others]
    exact isNext

/-- Whoever has waited at a lock reviews by itself, unless a decision is known by then. -/
theorem reviews_or_known {flight : FlightId}
    (waits : system.standing call = .waiting access flight) (kept : move ≠ .giveUp call)
    (moved : (system.apply move).standing call ≠ .waiting access flight) :
    system.store.access.decisions.get? access ≠ none ∨
      (system.apply move).standing call = .reviewing access flight ∧
        system.SendsOn move call system.store.access.client (.review access) := by
  have own : system.isMoveOf call move = true := by
    by_contra foreign
    rw [standing_of_not_isMoveOf (by simpa using foreign)] at moved
    exact moved waits
  obtain ⟨current, _, passes⟩ := passes_apply own
  rw [waits] at passes
  generalize after : (system.apply move).standing call = last at passes moved
  cases passes with
  | stays standing same => exact absurd rfl moved
  | asks key lock undecided holds same sent =>
      exact Or.inr ⟨rfl, own, [_], sent, List.mem_singleton.2 rfl⟩
  | reads key lock same known => exact Or.inl known
  | leaves standing lock atLock same given => exact absurd given kept

/-! ## All runs -/

/-- What holds of checks of access after the moves, and of any next move. -/
structure Answerable (system : System) (moves : List Move) : Prop where
  returned : ∀ move call key verb result,
    (system.run moves).Returns move call (.checkAccess key verb) result →
    system.Explains moves move call key verb result
  /-- Success, denials and failed reviews are returned for their own reasons only, as long as the
  connection reports what connections report. -/
  faithful : ∀ move call key verb result,
    (system.run moves).Returns move call (.checkAccess key verb) result →
    (∀ error, move = .answer call (.resource (.error error)) → Connection.Reports error) →
    system.Faithful moves move call key verb result
  failed : ∀ call access error, (system.run moves).Reviews access call →
    (system.run moves).FailsAlone (.answer call (.review (.error error))) call access error
  waited : ∀ move call access flight, (system.run moves).standing call = .waiting access flight →
    move ≠ .giveUp call →
    ((system.run moves).apply move).standing call ≠ .waiting access flight →
    (system.run moves).store.access.decisions.get? access ≠ none ∨
      ((system.run moves).apply move).standing call = .reviewing access flight ∧
        (system.run moves).SendsOn move call (system.run moves).store.access.client
          (.review access)
  /-- Where no call can go on by itself, whoever waits at a lock waits for a review in flight. -/
  rested : (system.run moves).Rested → ∀ call access flight,
    (system.run moves).standing call = .waiting access flight →
    ∃ other, (system.run moves).store.access.flights.isHolder flight other = true ∧
      (system.run moves).standing other = .reviewing access flight
  /-- Every lock on the register belongs to a review in flight, of a call that is still running. -/
  registered : ∀ access flight,
    (system.run moves).store.access.flights.register.get? access = some flight →
    ∃ (call : CallId) (current : Call), (system.run moves).calls[call]? = some current ∧
      current.stage.isPending = true ∧ current.stage.standing = .reviewing access flight
  idle : (∀ (call : CallId) (current : Call), (system.run moves).calls[call]? = some current →
      current.stage.isPending = false) →
    (system.run moves).store.access.flights.register = Table.empty

/-- As long as no call is given up, checks of access account for what they return, and for the
locks. -/
theorem checks_answerable (config : StoreConfig) (client : ClientId) (moves : List Move)
    (kept : ∀ call, .giveUp call ∉ moves) : Answerable (start config client) moves := by
  have orderly := orderly_run config client moves
  have clean := clean_run config client moves kept
  constructor
  case returned => exact fun move call key verb result => explains_of_returns config client moves
  case faithful =>
    intro move call key verb result returns
    exact (explains_of_returns config client moves returns).faithful
  case failed =>
    intro call access error reviews
    exact failsAlone orderly (holds_run config client moves) reviews rfl
  case waited => exact fun move call access flight => reviews_or_known
  case rested => exact fun rested call access flight => orderly.reviewing_of_rested rested
  case registered =>
    intro access flight listed
    obtain ⟨call, stands⟩ := clean access flight listed
    obtain ⟨current, lock, called, reviews⟩ := Reviews.called ⟨flight, stands⟩
    rw [standing_of_calls called] at stands
    have underWay := Stage.isUnderWay_of_reviewing reviews
    exact ⟨call, current, called, Stage.isPending_of_isUnderWay underWay, stands⟩
  case idle => exact clean.register_eq_empty

/-! Three checks on leases: the review of the first fails while the second waits; the second reviews
itself and is denied, and the third finds the denial. -/

def leaseKey : Key := .ofScope "kube-system" "coordination.k8s.io/v1" "Lease"

def leaseAccess : AccessKey := ⟨"kube-system", "coordination.k8s.io", "leases", "list"⟩

def leaseAnswer : Answer :=
  .resource (.ok (.served "coordination.k8s.io" "v1" "Lease" "leases"))

def leaseRun : List Move :=
  [.begin (.checkAccess leaseKey "list"), .begin (.checkAccess leaseKey "list"),
    .answer 0 leaseAnswer, .answer 1 leaseAnswer, .answer 0 (.review (.error (.custom "down"))),
    .takeLock 1, .answer 1 (.review (.ok false)), .begin (.checkAccess leaseKey "list")]

theorem checks_answerable_leases :
    let system := start .standard 0
    (∀ call, .giveUp call ∉ leaseRun) ∧ Answerable system leaseRun ∧
      (system.run (leaseRun.take 4)).standing 1 = .waiting leaseAccess 0 ∧
      (system.run (leaseRun.take 6)).standing 1 = .reviewing leaseAccess 0 ∧
      (system.run leaseRun).stage? 0 =
        some (.finished (.error (.fetch leaseAccess (.custom "down")))) ∧
      (system.run leaseRun).stage? 1 = some (.finished (.error (.accessDenied leaseAccess))) ∧
      (system.run leaseRun).Returns (.answer 2 leaseAnswer) 2 (.checkAccess leaseKey "list")
        (leaseAccess.verdict false) := by
  have kept : ∀ call, .giveUp call ∉ leaseRun := by
    intro call member
    simp [leaseRun] at member
  exact ⟨kept, checks_answerable .standard 0 leaseRun kept, rfl, rfl, rfl, rfl, rfl, nofun⟩

end System

end ClusterCache
