import ClusterCache.Proofs.Store.Writes
import ClusterCache.Proofs.System.Updates

/-!
# What writes do

The verdicts that a write meets, the requests that it sends and the callbacks that run for it are
collected along a run. Main statement: a write takes its hurdles in order and stops at the first
that it does not pass. It sends exactly the requests that its verdicts lead to, and succeeds exactly
if it passes every hurdle. By the step in which it succeeds, the callbacks that are registered at
that moment run once each in their order; otherwise none runs. What the store holds is left alone
throughout.
-/

namespace ClusterCache.System

/-! ## What is seen of a write -/

/-- The entries that the journal gains by a move, in order. -/
def gained (system : System) (move : Move) : List Entry :=
  ((system.apply move).store.journal.take
    ((system.apply move).store.journal.length - system.store.journal.length)).reverse

/-- The verdicts that a write meets by a move. -/
def met (call : CallId) (operation : Operation) (key : Key) (verb : Verb) (system : System)
    (move : Move) : List Verdict :=
  if system.isMoveOf call move then
    (system.stood call).verdicts system.store call operation key verb move
  else []

/-- The requests to read or to change objects, or to watch, that a call sends by a move. -/
def worked (call : CallId) (system : System) (move : Move) : List Request :=
  if system.isMoveOf call move then (system.gained move).filterMap Entry.work? else []

/-- The callbacks, by their labels, that run by a move of a call. -/
def calledBack (call : CallId) (system : System) (move : Move) : List String :=
  if system.isMoveOf call move then (system.gained move).filterMap Entry.ran? else []

def verdicts (system : System) (call : CallId) (operation : Operation) (key : Key) (verb : Verb)
    (moves : List Move) : List Verdict :=
  system.collect (met call operation key verb) moves

def requests (system : System) (call : CallId) (moves : List Move) : List Request :=
  system.collect (worked call) moves

def ran (system : System) (call : CallId) (moves : List Move) : List String :=
  system.collect (calledBack call) moves

/-- The verdicts that a write has met account for where it stands. -/
def Keeps (system : System) (call : CallId) (operation : Operation) (key : Key)
    (verdicts : List Verdict) : Prop :=
  match system.calls[call]? with
  | none => verdicts = []
  | some current => current.operation = operation → Fares key operation verdicts current.stage

/-! ## Moves of a write -/

section Moves

variable {system : System} {call : CallId} {operation : Operation} {key : Key} {verb : Verb}
  {verdicts : List Verdict} {move : Move}

theorem gained_eq {noted : List Entry}
    (journal : (system.apply move).store.journal = noted.reverse ++ system.store.journal) :
    system.gained move = noted := by
  simp [gained, journal]

/-- Every move of a write is a step that takes the hurdles in order. -/
theorem takes_apply (isWrite : operation.isWrite = true)
    (need : operation.need? = some (key, verb)) (keeps : system.Keeps call operation key verdicts)
    (own : system.isMoveOf call move = true) {stage : Stage}
    (after : (system.apply move).calls[call]? = some ⟨operation, stage⟩) :
    Takes key operation verdicts system.store (system.met call operation key verb move)
      ((system.apply move).store, stage) := by
  cases before : system.calls[call]? with
  | some current =>
      obtain ⟨storeAfter, callsAfter⟩ := apply_of_isMoveOf before own
      rw [after] at callsAfter
      obtain ⟨same, stageAfter⟩ := Call.mk.inj (Option.some.inj callsAfter)
      obtain ⟨begun, stage⟩ := current
      simp only at same
      subst same
      simp only [Keeps, before] at keeps
      have takes := takes_next system.store call move isWrite need
        (ne_begin_of_isMoveOf before own) (keeps trivial)
      rw [storeAfter, stageAfter]
      simpa only [met, own, if_true, stood_of_calls before] using takes
  | none =>
      simp only [Keeps, before] at keeps
      subst keeps
      obtain ⟨begun, rfl, storeAfter, callsAfter⟩ := begin_of_isMoveOf before own
      rw [after] at callsAfter
      obtain ⟨rfl, stageAfter⟩ := Call.mk.inj (Option.some.inj callsAfter)
      have arrives : system.stood call = .arriving := by simp [stood, stage?, before]
      have takes := takes_begin system.store call isWrite need
      rw [storeAfter, stageAfter]
      simpa only [met, own, if_true, arrives] using takes

theorem met_of_not_isMoveOf (foreign : system.isMoveOf call move = false) :
    system.met call operation key verb move = [] := by
  simp [met, foreign]

theorem isWritten_of_split {moves first : List Move} {rest : List Move}
    (split : moves = first ++ move :: rest)
    (written : ((system.run first).met call operation key verb move).any Verdict.isWritten = true) :
    (system.verdicts call operation key verb moves).any Verdict.isWritten = true := by
  rw [System.verdicts, split, collect_append, collect, List.any_append, List.any_append, written]
  simp

/-- A write keeps its operation, so it is the one whose verdicts are collected. -/
theorem Keeps.apply (isWrite : operation.isWrite = true)
    (need : operation.need? = some (key, verb)) (keeps : system.Keeps call operation key verdicts)
    (move : Move) :
    (system.apply move).Keeps call operation key
      (verdicts ++ system.met call operation key verb move) := by
  by_cases own : system.isMoveOf call move = true
  · obtain ⟨⟨begun, stage⟩, after⟩ := called_of_isMoveOf own
    simp only [Keeps, after]
    rintro rfl
    exact (takes_apply isWrite need keeps own after).fares
  · have foreign : system.isMoveOf call move = false := by simpa using own
    rw [met_of_not_isMoveOf foreign, List.append_nil, Keeps, calls_of_not_isMoveOf foreign]
    exact keeps

theorem keeps_run (isWrite : operation.isWrite = true)
    (need : operation.need? = some (key, verb)) (config : StoreConfig) (client : ClientId)
    (call : CallId) (moves : List Move) :
    ((start config client).run moves).Keeps call operation key
      ((start config client).verdicts call operation key verb moves) := by
  induction moves using List.reverseRecOn with
  | nil => rfl
  | append_singleton moves move inductionHypothesis =>
      rw [run_concat, System.verdicts, collect_concat]
      exact inductionHypothesis.apply isWrite need move

end Moves

/-! ## Runs -/

/-- What a write is guaranteed that stands in a stage after a run. -/
structure Staged (system : System) (moves : List Move) (call : CallId) (operation : Operation)
    (key : Key) (verb : Verb) (stage : Stage) : Prop where
  /-- The hurdles are met in order, each once at most. -/
  order : (system.verdicts call operation key verb moves).map Verdict.hurdle <+: operation.hurdles
  /-- None is met after one that was not passed. -/
  passed : ∀ verdict ∈ (system.verdicts call operation key verb moves).dropLast,
    verdict.passed = true
  /-- As long as the write goes on, it waits for the verdict on the next hurdle. -/
  awaited : stage.isPending = true →
    (∀ verdict ∈ system.verdicts call operation key verb moves, verdict.passed = true) ∧
      ∃ hurdle, stage.hurdle? = some hurdle ∧
        (system.verdicts call operation key verb moves).map Verdict.hurdle ++ [hurdle] <+:
          operation.hurdles
  succeeds : (∃ outcome, stage = .finished (.ok outcome)) ↔
    (system.verdicts call operation key verb moves).map Verdict.hurdle = operation.hurdles ∧
      ∀ verdict ∈ system.verdicts call operation key verb moves, verdict.passed = true
  fails : (∃ error, stage = .finished (.error error)) ↔
    ∃ verdict ∈ system.verdicts call operation key verb moves, verdict.passed = false
  /-- Each verdict leads to its request, and no other request is sent. -/
  requested : system.requests call moves =
    (system.verdicts call operation key verb moves).filterMap operation.request?
  deleted : operation = .delete key →
    system.requests call moves = [] ∨
      ∃ resource name, key.name? = some name ∧
        system.requests call moves = [.delete resource key.ns name]
  /-- What is written back is what the change has made of the object that was read. -/
  updated : ∀ change, operation = .update key change →
    system.requests call moves = [] ∨
      ∃ resource name, key.name? = some name ∧
        (system.requests call moves = [.get resource key.ns name] ∨
          ∃ object written,
            .presence (some object) ∈ system.verdicts call operation key verb moves ∧
              change object = .ok written ∧
              system.requests call moves =
                [.get resource key.ns name, .replace resource written])
  /-- By the answer that the write succeeded, every callback that is registered then runs once, in
  order. What the callbacks register is not run. -/
  calledBack : (∃ outcome, stage = .finished (.ok outcome)) →
    ∃ first rest, moves = first ++ .answer call (.written (.ok ())) :: rest ∧
      (∃ client request, (system.run first).stage? call = some (.asking client request .write)) ∧
      (system.run (first ++ [.answer call (.written (.ok ()))])).stage? call = some stage ∧
      system.ran call first = [] ∧
      system.ran call moves = (system.run first).store.callbacks.map Callback.label ∧
      (system.run (first ++ [.answer call (.written (.ok ()))])).store.callbacks =
        (system.run first).store.callbacks ++
          (system.run first).store.callbacks.flatMap Callback.registers
  /-- Unless the write succeeded, no callback has run for it. -/
  silent : (∀ outcome, stage ≠ .finished (.ok outcome)) → system.ran call moves = []
  /-- The informers, what is loading and which kinds are in use are left alone. -/
  untouched : system.Throughout call moves fun before after => after.holdings = before.holdings

section Called

variable {config : StoreConfig} {client : ClientId} {moves : List Move} {call : CallId}
  {operation : Operation} {stage : Stage} {key : Key} {verb : Verb}
  (called : ((start config client).run moves).calls[call]? = some ⟨operation, stage⟩)
  (isWrite : operation.isWrite = true) (need : operation.need? = some (key, verb))

include called isWrite need

theorem fares_run :
    Fares key operation ((start config client).verdicts call operation key verb moves) stage := by
  have keeps := keeps_run isWrite need config client call moves
  simp only [Keeps, called] at keeps
  exact keeps trivial

/-- Every move of the write on the way was a step that takes the hurdles in order. -/
theorem takes_run {first : List Move} {own : Move} {rest : List Move}
    (split : moves = first ++ own :: rest)
    (isOwn : ((start config client).run first).isMoveOf call own = true) :
    ∃ stageThen,
      ((start config client).run (first ++ [own])).calls[call]? = some ⟨operation, stageThen⟩ ∧
      Takes key operation ((start config client).verdicts call operation key verb first)
        ((start config client).run first).store
        (((start config client).run first).met call operation key verb own)
        (((start config client).run (first ++ [own])).store, stageThen) := by
  obtain ⟨current, calledThen⟩ := called_of_isMoveOf isOwn
  obtain ⟨later, calledLater⟩ := operation_run calledThen rest
  have joined : moves = (first ++ [own]) ++ rest := by simp [split]
  rw [joined, run_append, run_concat, calledLater] at called
  have sameOperation : current.operation = operation :=
    congrArg Call.operation (Option.some.inj called)
  have after : (((start config client).run first).apply own).calls[call]? =
      some ⟨operation, current.stage⟩ := by
    rw [calledThen, ← sameOperation]
  refine ⟨current.stage, by rw [run_concat, after], ?_⟩
  rw [run_concat]
  exact takes_apply isWrite need (keeps_run isWrite need config client call first) isOwn after

theorem worked_of_split {first : List Move} {move : Move} {rest : List Move}
    (split : moves = first ++ move :: rest) :
    worked call ((start config client).run first) move =
      (((start config client).run first).met call operation key verb move).filterMap
        operation.request? := by
  by_cases own : ((start config client).run first).isMoveOf call move = true
  · obtain ⟨stageThen, _, takes⟩ := takes_run called isWrite need split own
    obtain ⟨noted, journal, requests, _⟩ := takes.journal
    rw [run_concat] at journal
    rw [worked, if_pos own, gained_eq journal, requests]
  · have foreign : ((start config client).run first).isMoveOf call move = false := by
      simpa using own
    rw [worked, if_neg own, met_of_not_isMoveOf foreign]
    rfl

/-- The callbacks run by the move whose verdict is that the write succeeded, and by no other. -/
theorem calledBack_of_split {first : List Move} {move : Move} {rest : List Move}
    (split : moves = first ++ move :: rest) :
    calledBack call ((start config client).run first) move =
      if (((start config client).run first).met call operation key verb move).any
        Verdict.isWritten then
          ((start config client).run first).store.callbacks.map Callback.label
      else [] := by
  by_cases own : ((start config client).run first).isMoveOf call move = true
  · obtain ⟨stageThen, _, takes⟩ := takes_run called isWrite need split own
    obtain ⟨noted, journal, _, ran⟩ := takes.journal
    rw [run_concat] at journal
    rw [calledBack, if_pos own, gained_eq journal, ran]
  · have foreign : ((start config client).run first).isMoveOf call move = false := by
      simpa using own
    rw [calledBack, if_neg own, met_of_not_isMoveOf foreign]
    rfl

theorem requests_run :
    (start config client).requests call moves =
      ((start config client).verdicts call operation key verb moves).filterMap
        operation.request? :=
  collect_eq_filterMap fun _ _ _ split => worked_of_split called isWrite need split

/-- Unless the write succeeded, no callback has run for it. -/
theorem ran_of_not_written
    (unwritten : ((start config client).verdicts call operation key verb moves).any
      Verdict.isWritten = false) :
    (start config client).ran call moves = [] := by
  refine collect_eq_nil fun first move rest split => ?_
  rw [calledBack_of_split called isWrite need split, if_neg]
  intro written
  rw [isWritten_of_split split written] at unwritten
  cases unwritten

/-- A write succeeds by a good answer, for which it waited with its last request. -/
theorem writing_of_split {first : List Move} {move : Move} {rest : List Move}
    (split : moves = first ++ move :: rest)
    (written : (((start config client).run first).met call operation key verb move).any
      Verdict.isWritten = true) :
    move = .answer call (.written (.ok ())) ∧ ∃ asked request,
      ((start config client).run first).calls[call]? =
        some ⟨operation, .asking asked request .write⟩ := by
  by_cases own : ((start config client).run first).isMoveOf call move = true
  · rw [met, if_pos own] at written
    obtain ⟨⟨asked, request, stands⟩, other, rfl⟩ := Stage.writing_of_isWritten written
    have same : other = call := by
      simp only [isMoveOf, Bool.and_eq_true, decide_eq_true_eq] at own
      exact own.1
    obtain ⟨begun, before⟩ := called_of_stood stands (by rintro ⟨⟩)
    obtain ⟨later, calledLater⟩ := operation_run before (.answer other (.written (.ok ())) :: rest)
    rw [split, run_append, calledLater] at called
    obtain ⟨rfl, _⟩ := Call.mk.inj (Option.some.inj called)
    exact ⟨by rw [same], asked, request, before⟩
  · rw [met, if_neg own] at written
    cases written

theorem unwritten_of_split {first : List Move} {move : Move} {rest : List Move}
    (split : moves = first ++ move :: rest)
    (before : ((start config client).verdicts call operation key verb first).any
      Verdict.isWritten = true) :
    (((start config client).run first).met call operation key verb move).any
      Verdict.isWritten = false := by
  refine Bool.eq_false_iff.2 fun again => ?_
  obtain ⟨_, asked, request, calledFirst⟩ := writing_of_split called isWrite need split again
  have fares := fares_run calledFirst isWrite need
  rw [fares.unwritten_of_isPending rfl] at before
  cases before

/-- By the step in which the write succeeds the callbacks run, and by no other step. -/
theorem calledBack_run {outcome : Outcome} (succeeded : stage = .finished (.ok outcome)) :
    ∃ first rest, moves = first ++ .answer call (.written (.ok ())) :: rest ∧
      (∃ asked request,
        ((start config client).run first).stage? call = some (.asking asked request .write)) ∧
      ((start config client).run (first ++ [.answer call (.written (.ok ()))])).stage? call =
        some stage ∧
      (start config client).ran call first = [] ∧
      (start config client).ran call moves =
        ((start config client).run first).store.callbacks.map Callback.label ∧
      ((start config client).run
          (first ++ [.answer call (.written (.ok ()))])).store.callbacks =
        ((start config client).run first).store.callbacks ++
          ((start config client).run first).store.callbacks.flatMap Callback.registers := by
  subst succeeded
  have fares := fares_run called isWrite need
  obtain rfl := fares.done_of_ok
  obtain ⟨verdict, member, isWritten⟩ := List.any_eq_true.1 (fares.isWritten_iff.2 rfl)
  obtain ⟨first, move, rest, split, metThen⟩ := exists_of_mem_collect member
  have written : (((start config client).run first).met call operation key verb move).any
      Verdict.isWritten = true := List.any_eq_true.2 ⟨verdict, metThen, isWritten⟩
  obtain ⟨rfl, asked, request, calledFirst⟩ := writing_of_split called isWrite need split written
  have own : ((start config client).run first).isMoveOf call (.answer call (.written (.ok ()))) =
      true := by
    simpa [isMoveOf] using (List.getElem?_eq_some_iff.1 calledFirst).1
  obtain ⟨stageThen, calledThen, takes⟩ := takes_run called isWrite need split own
  have writtenThen := isWritten_of_split (rfl : first ++ [_] = first ++ _ :: []) written
  have ended := (fares_run calledThen isWrite need).isWritten_iff.1 writtenThen
  have silentFirst := ran_of_not_written calledFirst isWrite need
    ((fares_run calledFirst isWrite need).unwritten_of_isPending rfl)
  have silentRest : (((start config client).run first).apply
      (.answer call (.written (.ok ())))).collect (System.calledBack call) rest = [] := by
    -- From this answer on the write has succeeded, and it does not do so twice.
    refine collect_eq_nil fun early next late splitRest => ?_
    have splitThen : moves = (first ++ .answer call (.written (.ok ())) :: early) ++
        next :: late := by
      rw [split, splitRest, List.append_assoc, List.cons_append]
    have before := isWritten_of_split
      (rfl : first ++ .answer call (.written (.ok ())) :: early = first ++ _ :: early) written
    have silent := calledBack_of_split called isWrite need splitThen
    rw [unwritten_of_split called isWrite need splitThen before, run_append] at silent
    exact silent
  refine ⟨first, rest, split, ⟨asked, request, ?_⟩, ?_, silentFirst, ?_, ?_⟩
  · simp [stage?, calledFirst]
  · simp [stage?, calledThen, ended]
  · rw [ran] at silentFirst ⊢
    rw [split, collect_append, collect, silentFirst, silentRest,
      calledBack_of_split called isWrite need split, if_pos written]
    simp
  · have callbacks := takes.callbacks
    rwa [if_pos written] at callbacks

/-- Every write takes its hurdles in order and calls back exactly when it succeeds. -/
theorem write_staged : Staged (start config client) moves call operation key verb stage where
  order := (fares_run called isWrite need).order isWrite
  passed := (fares_run called isWrite need).passed_dropLast isWrite
  awaited pending :=
    ⟨(fares_run called isWrite need).passed_of_isPending pending,
      (fares_run called isWrite need).next_of_isPending isWrite pending⟩
  succeeds := (fares_run called isWrite need).succeeds_iff isWrite
  fails := (fares_run called isWrite need).fails_iff isWrite
  requested := requests_run called isWrite need
  deleted deletes := by
    rw [requests_run called isWrite need]
    exact (fares_run called isWrite need).requests_delete deletes
  updated change updates := by
    rw [requests_run called isWrite need]
    exact (fares_run called isWrite need).requests_update updates
  calledBack := by
    rintro ⟨outcome, succeeded⟩
    exact calledBack_run called isWrite need succeeded
  silent unfinished := by
    refine ran_of_not_written called isWrite need (Bool.eq_false_iff.2 fun written => ?_)
    exact unfinished .done ((fares_run called isWrite need).isWritten_iff.1 written)
  untouched first own rest split isOwn := by
    obtain ⟨stageThen, _, takes⟩ := takes_run called isWrite need split isOwn
    exact takes.holdings

end Called

/-! An update after which two callbacks run: one that registers a third, and one that was registered
while the update waited for its last answer. -/

def calledBackUpdate : List Move :=
  .onUpdate (.labelled "audit" [.labelled "again" []]) :: updateRun (renewed "2") ++
    [.answer 0 (.object (.ok (some settings))), .onUpdate (.labelled "refresh" []),
      .answer 0 (.written (.ok ()))]

theorem write_staged_settings :
    ((start .standard 0).run calledBackUpdate).calls[0]? =
        some ⟨.update settingsKey (renewed "2"), .finished (.ok .done)⟩ ∧
      (Operation.update settingsKey (renewed "2")).isWrite = true ∧
      (Operation.update settingsKey (renewed "2")).need? = some (settingsKey, .update) ∧
      Staged (start .standard 0) calledBackUpdate 0 (.update settingsKey (renewed "2")) settingsKey
        .update (.finished (.ok .done)) ∧
      (start .standard 0).ran 0 calledBackUpdate = ["audit", "refresh"] ∧
      ((start .standard 0).run calledBackUpdate).store.callbacks.map Callback.label =
        ["audit", "refresh", "again"] :=
  ⟨rfl, rfl, rfl, write_staged rfl rfl rfl, rfl, rfl⟩

end ClusterCache.System
