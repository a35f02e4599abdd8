import ClusterCache.Proofs.Store.Steps
import ClusterCache.Proofs.System.Moves
import Mathlib.Data.List.Induction

/-!
# Which requests calls send

A request that a call sends is either one whose answer it then waits for, or a watch on an informer
that serves it. What every step keeps holds of a call at every moment of a run.
-/

namespace ClusterCache.System

variable {system : System} {call : CallId} {move : Move} {client : ClientId} {request : Request}

/-- By the move the call sends the request on the connection. -/
def SendsOn (system : System) (move : Move) (call : CallId) (client : ClientId)
    (request : Request) : Prop :=
  system.isMoveOf call move = true ∧ ∃ noted,
    (system.apply move).store.journal = noted ++ system.store.journal ∧
      .sent client request ∈ noted

/-- Every move of a call leads it from where it stood; a call that begins arrives. -/
theorem goes_apply (own : system.isMoveOf call move = true) :
    ∃ current, (system.apply move).calls[call]? = some current ∧
      system.store.Goes call current.operation move (system.stood call)
        ((system.apply move).store, current.stage) := by
  cases before : system.calls[call]? with
  | some earlier =>
      obtain ⟨stored, called⟩ := apply_of_isMoveOf before own
      refine ⟨_, called, ?_⟩
      rw [stored, stood_of_calls before]
      refine Call.goes_next system.store call earlier move ?_
      rintro other answer rfl
      simp only [isMoveOf, Bool.and_eq_true, decide_eq_true_eq] at own
      exact own.1
  | none =>
      obtain ⟨operation, rfl, stored, called⟩ := begin_of_isMoveOf before own
      refine ⟨_, called, ?_⟩
      have arrives : system.stood call = .arriving := by simp [stood, stage?, before]
      rw [stored, arrives]
      exact Store.goes_begin call system.store operation

/-- What holds on arrival, and is kept by every step, holds of every call in a run. -/
theorem stages_run {holds : Operation → Stage → Prop}
    (arriving : ∀ operation, holds operation .arriving)
    (kept : ∀ {store : Store} {call : CallId} {operation : Operation} {move : Move} {stage : Stage}
      {next : Store × Stage}, store.Goes call operation move stage next →
      holds operation stage → holds operation next.2)
    (config : StoreConfig) (client : ClientId) (moves : List Move) {current : Call}
    (called : ((start config client).run moves).calls[call]? = some current) :
    holds current.operation current.stage := by
  induction moves using List.reverseRecOn generalizing current with
  | nil => cases called
  | append_singleton moves move inductionHypothesis =>
      rw [run_concat] at called
      by_cases own : ((start config client).run moves).isMoveOf call move = true
      · obtain ⟨moved, calledAfter, goes⟩ := goes_apply own
        rw [called] at calledAfter
        cases calledAfter
        refine kept goes ?_
        cases before : ((start config client).run moves).calls[call]? with
        | none =>
            simp only [stood, stage?, before]
            exact arriving current.operation
        | some earlier =>
            obtain ⟨stage, calledNext⟩ := operation_apply before move
            rw [called] at calledNext
            cases calledNext
            rw [stood_of_calls before]
            exact inductionHypothesis before
      · rw [calls_of_not_isMoveOf (by simpa using own)] at called
        exact inductionHypothesis called

/-- A request is sent to be waited for, or it opens a watch for an operation that is served. -/
theorem SendsOn.asks_or_watches (sends : system.SendsOn move call client request) :
    ∃ current, (system.apply move).calls[call]? = some current ∧
      ((∃ purpose, current.stage = .asking client request purpose ∧
          system.store.Asks call current.operation move (system.stood call) client request
            purpose) ∨
        (∃ resource, client = system.store.informers.client ∧
          request = .watch resource system.store.informers.ns ∧
          current.stage.isPending = false)) := by
  obtain ⟨own, noted, journal, member⟩ := sends
  obtain ⟨current, called, goes⟩ := goes_apply own
  refine ⟨current, called, ?_⟩
  generalize stage : current.stage = next at goes
  -- Whatever is noted besides the request is not a request.
  have noSilence : (system.apply move).store.journal = system.store.journal → False := by
    intro silent
    have nothing : noted = [] := List.append_cancel_right (journal.symm.trans silent)
    rw [nothing] at member
    cases member
  have isSent : ∀ {other}, (system.apply move).store.journal = other :: system.store.journal →
      .sent client request = other := by
    intro other sent
    have single : noted = [other] := List.append_cancel_right (journal.symm.trans sent)
    rw [single] at member
    exact List.mem_singleton.1 member
  cases goes with
  | stays _ silent | queues _ access flight silent | drops _ silent =>
      exact absurd silent noSilence
  | swaps _ _ _ _ changed => exact absurd (congrArg Store.journal changed) noSilence
  | asks _ asks sent =>
      cases isSent sent
      exact Or.inl ⟨_, rfl, asks⟩
  | ends _ result _ ran ranJournal isRan =>
      have same : noted = ran := List.append_cancel_right (journal.symm.trans ranJournal)
      rw [same] at member
      obtain ⟨label, isCallback⟩ := isRan _ member
      cases isCallback
  | serves _ _ _ _ resource _ key _ _ served =>
      rcases system.store.journal_serve key resource with silent | opened
      · exact absurd (served.trans silent) noSilence
      · cases isSent (served.trans opened)
        exact Or.inr ⟨resource, rfl, rfl, rfl⟩

end ClusterCache.System
