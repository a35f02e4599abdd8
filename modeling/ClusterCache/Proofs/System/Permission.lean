import ClusterCache.Proofs.Store.Course
import ClusterCache.Proofs.System.Moves
import Mathlib.Data.List.Induction

/-!
# No effect without permission

What an operation on objects learns is collected along a run. Main statement: unless the operation
has learned that exactly the access it needs is allowed, its moves touch nothing that the store
holds, send only inquiries and return no success; and where it is refused, it ends with an error.
-/

namespace ClusterCache

namespace System

/-! ## Runs -/

/-- What a call learns by a move. -/
def discovered (call : CallId) (key : Key) (verb : Verb) (system : System) (move : Move) :
    List Finding :=
  if system.isMoveOf call move then
    match system.calls[call]? with
    | some current => current.stage.learned system.store call key verb move
    | none => []
  else []

/-- What a call learns along a run. -/
def findings (system : System) (call : CallId) (key : Key) (verb : Verb) (moves : List Move) :
    List Finding :=
  system.collect (discovered call key verb) moves

/-- Every move of the call relates the store before it to the store after it. -/
def Throughout (system : System) (call : CallId) (moves : List Move)
    (relation : Store → Store → Prop) : Prop :=
  ∀ first own rest, moves = first ++ own :: rest →
    (system.run first).isMoveOf call own = true →
    relation (system.run first).store (system.run (first ++ [own])).store

/-- What a call has learned so far accounts for its stage. -/
def Follows (system : System) (call : CallId) (key : Key) (verb : Verb)
    (findings : List Finding) : Prop :=
  match system.calls[call]? with
  | none => findings = []
  | some current => current.operation.need? = some (key, verb) →
      Course key verb findings current.stage

variable {system : System} {call : CallId} {key : Key} {verb : Verb} {findings : List Finding}
  {move : Move}

/-- Every move of an operation on objects keeps to its course. -/
theorem advance_apply (follows : system.Follows call key verb findings)
    (own : system.isMoveOf call move = true) {operation : Operation} {stage : Stage}
    (called : (system.apply move).calls[call]? = some ⟨operation, stage⟩)
    (need : operation.need? = some (key, verb)) :
    Advance key verb findings system.store move (discovered call key verb system move)
      ((system.apply move).store, stage) := by
  cases before : system.calls[call]? with
  | some current =>
      obtain ⟨storeAfter, callsAfter⟩ := apply_of_isMoveOf before own
      rw [callsAfter] at called
      obtain ⟨rfl, rfl⟩ := Call.mk.inj (Option.some.inj called)
      simp only [Follows, before] at follows
      have step := advance system.store call move need (follows need)
      rw [storeAfter]
      simpa only [discovered, own, before, if_true] using step
  | none =>
      simp only [Follows, before] at follows
      subst follows
      obtain ⟨begun, rfl, storeAfter, callsAfter⟩ := begin_of_isMoveOf before own
      rw [callsAfter] at called
      obtain ⟨rfl, rfl⟩ := Call.mk.inj (Option.some.inj called)
      simp only [discovered, own, before, if_true]
      rw [storeAfter]
      exact advance_begin system.store call _ need

theorem discovered_of_not_isMoveOf (foreign : system.isMoveOf call move = false) :
    discovered call key verb system move = [] := by
  simp [discovered, foreign]

theorem Follows.apply (follows : system.Follows call key verb findings) (move : Move) :
    (system.apply move).Follows call key verb
      (findings ++ discovered call key verb system move) := by
  by_cases own : system.isMoveOf call move = true
  · obtain ⟨current, after⟩ := called_of_isMoveOf own
    simp only [Follows, after]
    intro need
    exact (advance_apply follows own after need).course
  · have foreign : system.isMoveOf call move = false := by simpa using own
    rw [discovered_of_not_isMoveOf foreign, List.append_nil, Follows,
      calls_of_not_isMoveOf foreign]
    exact follows

theorem follows_run (config : StoreConfig) (client : ClientId) (call : CallId) (key : Key)
    (verb : Verb) (moves : List Move) :
    ((start config client).run moves).Follows call key verb
      ((start config client).findings call key verb moves) := by
  induction moves using List.reverseRecOn with
  | nil => rfl
  | append_singleton moves move inductionHypothesis =>
      rw [run_concat, System.findings, collect_concat]
      exact inductionHypothesis.apply move

/-- What the gate guarantees an operation on objects that stands in a stage after a run. -/
structure Gated (system : System) (moves : List Move) (call : CallId) (key : Key) (verb : Verb)
    (stage : Stage) : Prop where
  /-- Nothing is touched, read, written or returned without permission. -/
  guarded : ∀ first own rest, moves = first ++ own :: rest →
    (system.run first).isMoveOf call own = true →
    Permitted key verb (system.findings call key verb first) ∨
      (system.run first).store.Untouched (system.run (first ++ [own])).store ∧
        ∀ outcome, (system.run (first ++ [own])).stage? call ≠ some (.finished (.ok outcome))
  /-- Only a review decides, and only on the access that is needed. -/
  decisions : ∀ first own rest, moves = first ++ own :: rest →
    (system.run first).isMoveOf call own = true →
    (system.run (first ++ [own])).store.access.decisions =
        (system.run first).store.access.decisions ∨
      ∃ resource allowed, own = .answer call (.review (.ok allowed)) ∧
        .located key.groupVersionKind resource ∈ system.findings call key verb first ∧
        (system.run (first ++ [own])).store.access.decisions =
          (system.run first).store.access.decisions.insert (key.access verb resource) allowed
  kindless : key.kind = "" →
    (stage = .arriving ∨ stage = .dropped ∨ ∃ error, stage = .finished (.error error)) ∧
      system.Throughout call moves Store.Inquires
  unlocated : .unlocated ∈ system.findings call key verb moves ∨
      .unreviewed ∈ system.findings call key verb moves →
    (∃ error, stage = .finished (.error error)) ∧ system.Throughout call moves Store.Inquires
  unmapped : .unmapped ∈ system.findings call key verb moves →
    (∃ error, stage = .finished (.error error)) ∧ system.Throughout call moves Store.Untouched
  denied : ∀ access, .decided access false ∈ system.findings call key verb moves →
    (∃ resource, access = key.access verb resource ∧
        .located key.groupVersionKind resource ∈ system.findings call key verb moves) ∧
      stage = .finished (.error (.accessDenied access)) ∧
      system.Throughout call moves Store.Untouched

/-- What is found up to a move is found up to the end. -/
theorem findings_subset {system : System} {call : CallId} {key : Key} {verb : Verb}
    {moves first : List Move} {own : Move} {rest : List Move} (split : moves = first ++ own :: rest)
    {finding : Finding}
    (found : finding ∈ system.findings call key verb first ++
      discovered call key verb (system.run first) own) :
    finding ∈ system.findings call key verb moves := by
  have joined : moves = (first ++ [own]) ++ rest := by simp [split]
  rw [joined, findings, collect_append, collect_concat]
  exact List.mem_append_left _ found

section Called

variable {config : StoreConfig} {client : ClientId} {moves : List Move} {call : CallId}
  {operation : Operation} {stage : Stage} {key : Key} {verb : Verb}
  (called : ((start config client).run moves).calls[call]? = some ⟨operation, stage⟩)
  (need : operation.need? = some (key, verb))

include called need

/-- Every move of the call on the way kept to its course. -/
theorem advance_run {first : List Move} {own : Move} {rest : List Move}
    (split : moves = first ++ own :: rest)
    (isOwn : ((start config client).run first).isMoveOf call own = true) :
    ∃ current,
      ((start config client).run (first ++ [own])).stage? call = some current ∧
      Advance key verb ((start config client).findings call key verb first)
        ((start config client).run first).store own
        (discovered call key verb ((start config client).run first) own)
        (((start config client).run (first ++ [own])).store, current) := by
  have follows := follows_run config client call key verb first
  obtain ⟨current, calledThen⟩ := called_of_isMoveOf isOwn
  obtain ⟨later, calledLater⟩ := operation_run calledThen rest
  have joined : moves = (first ++ [own]) ++ rest := by simp [split]
  rw [joined, run_append, run_concat, calledLater] at called
  have sameOperation : current.operation = operation :=
    congrArg Call.operation (Option.some.inj called)
  rw [← sameOperation] at need
  refine ⟨current.stage, ?_, ?_⟩
  · rw [stage?, run_concat, calledThen]
    rfl
  · rw [run_concat]
    exact advance_apply follows isOwn calledThen need

theorem course_run :
    Course key verb ((start config client).findings call key verb moves) stage := by
  have follows := follows_run config client call key verb moves
  simp only [Follows, called] at follows
  exact follows need

/-- Who never learned which resource to work on touched nothing. -/
theorem throughout_untouched
    (unmapped : ∀ worked,
      .mapped worked ∉ (start config client).findings call key verb moves) :
    (start config client).Throughout call moves Store.Untouched := by
  intro first own rest split isOwn
  obtain ⟨current, _, step⟩ := advance_run called need split isOwn
  exact step.untouched fun worked found => unmapped worked (findings_subset split found)

/-- Who met no decision either has decided nothing. -/
theorem throughout_inquires
    (unmapped : ∀ worked,
      .mapped worked ∉ (start config client).findings call key verb moves)
    (undecided : ∀ access allowed,
      .decided access allowed ∉ (start config client).findings call key verb moves) :
    (start config client).Throughout call moves Store.Inquires := by
  intro first own rest split isOwn
  have untouched := throughout_untouched called need unmapped first own rest split isOwn
  obtain ⟨current, _, step⟩ := advance_run called need split isOwn
  rcases step.decisions with same | ⟨_, access, allowed, _, learned, _⟩
  · exact ⟨untouched, same⟩
  · have found : .decided access allowed ∈
        (start config client).findings call key verb first ++
          discovered call key verb ((start config client).run first) own := by
      rw [learned]
      exact List.mem_append_right _ (List.mem_singleton.2 rfl)
    exact absurd (findings_subset split found) (undecided access allowed)

/-- Every operation on objects passes the permission gate. -/
theorem operation_gated : Gated (start config client) moves call key verb stage where
  guarded := by
    intro first own rest split isOwn
    obtain ⟨current, stageThen, step⟩ := advance_run called need split isOwn
    by_cases mapped : ∃ worked, .mapped worked ∈
        (start config client).findings call key verb first ++
          discovered call key verb ((start config client).run first) own
    · exact Or.inl (step.permitted mapped)
    · refine Or.inr ⟨step.untouched (not_exists.1 mapped), ?_⟩
      intro outcome succeeded
      rw [stageThen] at succeeded
      have course := step.course
      rw [Option.some.inj succeeded] at course
      exact mapped course.mapped_of_success
  decisions := by
    intro first own rest split isOwn
    obtain ⟨current, _, step⟩ := advance_run called need split isOwn
    rcases step.decisions with same | ⟨other, access, allowed, isAnswer, learned, inserted⟩
    · exact Or.inl same
    · have sameCall : other = call := by
        rw [isAnswer] at isOwn
        simp_all [isMoveOf]
      subst sameCall
      have course := step.course
      rw [learned] at course
      obtain ⟨resource, located, sameAccess⟩ :=
        course.access_of_decided (List.mem_append_right _ (List.mem_singleton.2 rfl))
      have locatedBefore : .located key.groupVersionKind resource ∈
          (start config client).findings other key verb first := by
        simpa using located
      rw [sameAccess] at inserted
      exact Or.inr ⟨resource, allowed, isAnswer, locatedBefore, inserted⟩
  kindless noKind := by
    obtain ⟨nothing, failed⟩ := (course_run called need).failed_of_kindless (by simp [noKind])
    exact ⟨failed, throughout_inquires called need (by simp [nothing]) (by simp [nothing])⟩
  unlocated failure := by
    obtain ⟨failed, unmapped, undecided⟩ :=
      (course_run called need).failed_of_unlocated_or_unreviewed failure
    exact ⟨failed, throughout_inquires called need unmapped undecided⟩
  unmapped failure := by
    obtain ⟨failed, unmapped⟩ := (course_run called need).failed_of_unmapped failure
    exact ⟨failed, throughout_untouched called need unmapped⟩
  denied access denial := by
    obtain ⟨⟨resource, located, same⟩, ended, unmapped⟩ :=
      (course_run called need).denied_of_decided_false denial
    exact ⟨⟨resource, same, located⟩, ended, throughout_untouched called need unmapped⟩

end Called

/-! A list of jobs that is denied, and one that is allowed but finds the kind gone afterwards. -/

def jobKey : Key := .ofScope "ci" "batch/v1" "Job"

def jobResource : ApiResource := .served "batch" "v1" "Job" "jobs"

def deniedList : List Move :=
  [.begin (.list jobKey), .answer 0 (.resource (.ok jobResource)), .answer 0 (.review (.ok false))]

def unmappedList : List Move :=
  [.begin (.list jobKey), .answer 0 (.resource (.ok jobResource)), .answer 0 (.review (.ok true)),
    .answer 0 (.resource (.error (.custom "gone")))]

theorem denied_list_gated :
    ((start .standard 0).run deniedList).calls[0]? =
        some ⟨.list jobKey,
          .finished (.error (.accessDenied ⟨"ci", "batch", "jobs", "list"⟩))⟩ ∧
      (Operation.list jobKey).need? = some (jobKey, .list) ∧
      Gated (start .standard 0) deniedList 0 jobKey .list
        (.finished (.error (.accessDenied ⟨"ci", "batch", "jobs", "list"⟩))) :=
  ⟨rfl, rfl, operation_gated rfl rfl⟩

/-- A failure to map the kind does not undo the decision that was made before. -/
theorem unmapped_list_decides :
    .unmapped ∈ (start .standard 0).findings 0 jobKey .list unmappedList ∧
      ¬ (start .standard 0).Throughout 0 unmappedList Store.Inquires := by
  have found : (start .standard 0).findings 0 jobKey .list unmappedList =
      permission jobKey .list jobResource ++ [.unmapped] := rfl
  refine ⟨by simp [found], ?_⟩
  intro throughout
  have undecided := (throughout _ (.answer 0 (.review (.ok true))) _
    (show unmappedList = [_, _] ++ _ from rfl) rfl).decisions
  have known := congrArg (Table.get? · (jobKey.access .list jobResource)) undecided
  cases known

end System

end ClusterCache
