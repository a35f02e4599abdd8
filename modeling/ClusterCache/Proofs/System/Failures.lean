import ClusterCache.Proofs.Error.Contexts
import ClusterCache.Proofs.Store.Faults
import ClusterCache.Proofs.System.Admission
import Mathlib.Data.List.Induction

/-!
# How operations on objects fail

Errors are classified by what lies below all contexts, and a failing operation puts at most one
context around what has gone wrong. Main statement: an operation on objects ends with an error
exactly if something went wrong at one of its moves, and then it returns this fault, a denial as it
is and anything else in the one context of its verb and its key. So what is returned is classified
as the fault is.
-/

namespace ClusterCache

/-- The operation that needs the verb on the key returns the fault as it should. -/
structure Error.ReturnedAs (key : Key) (verb : Verb) (fault result : Error) : Prop where
  denial : ∀ access, fault = .accessDenied access → result = fault
  other : (∀ access, fault ≠ .accessDenied access) →
    result = .context (verb.text ++ " " ++ key.text) fault
  category : result.category = fault.category
  isRetryable : result.isRetryable = fault.isRetryable
  severity : ∀ now, (Alert.forError now result).severity = (Alert.forError now fault).severity

theorem Error.root_returned (fault : Error) (key : Key) (verb : Verb) :
    (fault.returned key verb).root = fault.root := by
  cases fault <;> rfl

theorem Error.returnedAs_returned (fault : Error) (key : Key) (verb : Verb) :
    fault.ReturnedAs key verb (fault.returned key verb) where
  denial access isDenial := by
    rw [isDenial]
    rfl
  other noDenial := by
    cases fault with
    | accessDenied access => exact absurd rfl (noDenial access)
    | _ => rfl
  category := category_congr (fault.root_returned key verb)
  isRetryable := isRetryable_congr (fault.root_returned key verb)
  severity _ := Alert.severityOf_congr (fault.root_returned key verb)

namespace System

section Moves

variable {system : System} {call : CallId} {move : Move} {operation : Operation} {stage : Stage}
  {key : Key} {verb : Verb} {fault result : Error}

/-- Something goes wrong with the call as it makes the move. -/
def Meets (system : System) (move : Move) (call : CallId) (operation : Operation) (key : Key)
    (verb : Verb) (fault : Error) : Prop :=
  system.isMoveOf call move = true ∧
    system.store.Fault call operation key verb (system.stood call) move fault

/-- A call that goes on ends with an error by a fault, and by nothing else. -/
theorem fails_apply (own : system.isMoveOf call move = true)
    (pending : (system.stood call).isPending = true)
    (after : (system.apply move).calls[call]? = some ⟨operation, stage⟩)
    (need : operation.need? = some (key, verb)) :
    stage = .finished (.error result) ↔
      ∃ fault, system.Meets move call operation key verb fault ∧
        result = fault.returned key verb := by
  have framed := Operation.frame_of_need? need
  cases before : system.calls[call]? with
  | some current =>
      obtain ⟨_, callsAfter⟩ := apply_of_isMoveOf before own
      rw [after] at callsAfter
      obtain ⟨begun, stageBefore⟩ := current
      obtain ⟨rfl, rfl⟩ := Call.mk.inj (Option.some.inj callsAfter)
      have notBegin := ne_begin_of_isMoveOf before own
      rw [stood_of_calls before] at pending
      simp only [Meets, own, true_and, stood_of_calls before]
      constructor
      · intro ended
        have isCaller : ∀ other, move = .takeLock other ∨ (∃ answer, move = .answer other answer) →
            other = call := by
          rintro other (rfl | ⟨answer, rfl⟩) <;>
            · simp only [isMoveOf, Bool.and_eq_true, decide_eq_true_eq] at own
              exact own.1
        obtain ⟨fault, faulty, same⟩ := Store.fault_of_next need isCaller pending ended
        exact ⟨fault, faulty, by rw [same, framed]⟩
      · rintro ⟨fault, faulty, rfl⟩
        rw [faulty.ends need notBegin, framed]
  | none =>
      obtain ⟨begun, rfl, _, callsAfter⟩ := begin_of_isMoveOf before own
      rw [after] at callsAfter
      obtain ⟨rfl, rfl⟩ := Call.mk.inj (Option.some.inj callsAfter)
      have arrives : system.stood call = .arriving := by simp [stood, stage?, before]
      simp only [Meets, own, true_and, arrives]
      constructor
      · intro ended
        obtain ⟨fault, faulty, same⟩ := Store.fault_of_begin need ended
        exact ⟨fault, faulty, by rw [same, framed]⟩
      · rintro ⟨fault, faulty, rfl⟩
        rw [faulty.ends_begin need, framed]

/-- Who has ended stays as it ended. -/
theorem ended_run (called : system.calls[call]? = some ⟨operation, stage⟩)
    (ended : stage.isPending = false) (moves : List Move) :
    (system.run moves).calls[call]? = some ⟨operation, stage⟩ := by
  induction moves generalizing system with
  | nil => exact called
  | cons move rest inductionHypothesis =>
      refine inductionHypothesis ?_
      by_cases own : system.isMoveOf call move = true
      · have next := (apply_of_isMoveOf called own).2
        rwa [Call.next_of_not_isPending system.store call ended] at next
      · rwa [calls_of_not_isMoveOf (by simpa using own)]

end Moves

section Run

variable {config : StoreConfig} {client : ClientId} {moves : List Move} {call : CallId}
  {operation : Operation} {stage : Stage} {key : Key} {verb : Verb} {result : Error}

/-- An operation on objects has failed if and only if one of its moves met a fault. -/
theorem failed_iff (called : ((start config client).run moves).calls[call]? =
      some ⟨operation, stage⟩) (need : operation.need? = some (key, verb)) :
    stage = .finished (.error result) ↔
      ∃ first move rest fault, moves = first ++ move :: rest ∧
        ((start config client).run first).Meets move call operation key verb fault ∧
        result = fault.returned key verb := by
  constructor
  · rintro rfl
    induction moves using List.reverseRecOn with
    | nil => cases called
    | append_singleton moves move inductionHypothesis =>
        rw [run_concat] at called
        by_cases own : ((start config client).run moves).isMoveOf call move = true ∧
            (((start config client).run moves).stood call).isPending = true
        · obtain ⟨fault, meets, same⟩ := (fails_apply own.1 own.2 called need).1 rfl
          exact ⟨moves, move, [], fault, rfl, meets, same⟩
        · -- Unless the call goes on by this move, it had failed before.
          have before : ((start config client).run moves).calls[call]? =
              some ⟨operation, .finished (.error result)⟩ := by
            by_cases isOwn : ((start config client).run moves).isMoveOf call move = true
            · have ended : (((start config client).run moves).stood call).isPending = false := by
                simpa [isOwn] using own
              obtain ⟨current, calledBefore, _, calledAfter⟩ := apply_of_ended ended isOwn
              rw [calledBefore, ← calledAfter, called]
            · rwa [calls_of_not_isMoveOf (by simpa using isOwn)] at called
          obtain ⟨first, earlier, rest, fault, split, meets, same⟩ := inductionHypothesis before
          exact ⟨first, earlier, rest ++ [move], fault, by simp [split], meets, same⟩
  · rintro ⟨first, move, rest, fault, rfl, meets, rfl⟩
    have joined : first ++ move :: rest = (first ++ [move]) ++ rest := by simp
    rw [joined, run_append, run_concat] at called
    obtain ⟨⟨begun, stageThen⟩, calledThen⟩ := called_of_isMoveOf meets.1
    obtain ⟨later, calledLater⟩ := operation_run calledThen rest
    rw [called] at calledLater
    obtain ⟨rfl, rfl⟩ := Call.mk.inj (Option.some.inj calledLater)
    have failedThen := (fails_apply meets.1 meets.2.isPending calledThen need).2
      ⟨fault, meets, rfl⟩
    rw [failedThen] at calledThen
    rw [ended_run calledThen rfl rest] at called
    exact (Call.mk.inj (Option.some.inj called)).2.symm

/-- How an operation that needs the verb on the key stands to what has gone wrong with it. -/
structure FailsByFaults (system : System) (moves : List Move) (call : CallId)
    (operation : Operation) (key : Key) (verb : Verb) (stage : Stage) : Prop where
  returned : ∀ result, stage = .finished (.error result) →
    ∃ first move rest fault, moves = first ++ move :: rest ∧
      (system.run first).Meets move call operation key verb fault ∧
      fault.ReturnedAs key verb result
  ended : ∀ first move rest fault, moves = first ++ move :: rest →
    (system.run first).Meets move call operation key verb fault →
    ∃ result, stage = .finished (.error result) ∧ fault.ReturnedAs key verb result

/-- Every error is classified by its root, and every failing operation on objects returns what has
gone wrong, in one context unless it is a denial. -/
theorem failures_keep_their_class
    (called : ((start config client).run moves).calls[call]? = some ⟨operation, stage⟩)
    (need : operation.need? = some (key, verb)) :
    (∀ error : Error, error.Classified) ∧
      FailsByFaults (start config client) moves call operation key verb stage := by
  refine ⟨Error.classified, ?_, ?_⟩
  · intro result failed
    obtain ⟨first, move, rest, fault, split, meets, rfl⟩ := (failed_iff called need).1 failed
    exact ⟨first, move, rest, fault, split, meets, fault.returnedAs_returned key verb⟩
  · intro first move rest fault split meets
    exact ⟨_, (failed_iff called need).2 ⟨first, move, rest, fault, split, meets, rfl⟩,
      fault.returnedAs_returned key verb⟩

end Run

/-! A review that is denied itself: the watch that asked for it reports a failed review. -/

def routeKey : Key := .ofScope "edge" "networking.k8s.io/v1" "Ingress"

def routeWatch : Operation :=
  .watch routeKey ⟨"routes", []⟩ ⟨"networking.k8s.io", "v1", "ingresses"⟩

def failedReview : Error :=
  .fetch ⟨"edge", "networking.k8s.io", "ingresses", "watch"⟩
    (.accessDenied ⟨"", "authorization.k8s.io", "selfsubjectaccessreviews", "create"⟩)

def unreviewedWatch : List Move :=
  [.begin routeWatch,
    .answer 0 (.resource (.ok (.served "networking.k8s.io" "v1" "Ingress" "ingresses"))),
    .answer 0 (.review (.error
      (.accessDenied ⟨"", "authorization.k8s.io", "selfsubjectaccessreviews", "create"⟩)))]

theorem unreviewed_watch_keeps_its_class :
    ((start .standard 0).run unreviewedWatch).calls[0]? =
        some ⟨routeWatch,
          .finished (.error (.context ("watch " ++ routeKey.text) failedReview))⟩ ∧
      routeWatch.need? = some (routeKey, .watch) ∧
      (Error.context ("watch " ++ routeKey.text) failedReview).category = .fetch ∧
      (∀ error : Error, error.Classified) ∧
      FailsByFaults (start .standard 0) unreviewedWatch 0 routeWatch routeKey .watch
        (.finished (.error (.context ("watch " ++ routeKey.text) failedReview))) :=
  ⟨rfl, rfl, rfl, failures_keep_their_class rfl rfl⟩

end System

end ClusterCache
