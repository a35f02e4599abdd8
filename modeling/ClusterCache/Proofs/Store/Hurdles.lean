import ClusterCache.Proofs.Store.Course
import ClusterCache.Proofs.Store.Steps

/-!
# The hurdles of a write

A delete needs access, a name and a mapping before it is sent. An update needs the same before the
object is read, and the object, and a change that succeeds, before it is sent back. Each of these is
a hurdle, and its verdict is had from the answers that the call gets. The verdicts so far decide
where a write may stand, which requests it has sent and whether the callbacks have run.
-/

namespace ClusterCache

/-- What a write has to get past. -/
inductive Hurdle
  | access
  | name
  | mapping
  /-- The cluster tells what it has under the name. -/
  | reading
  /-- There is an object to be changed. -/
  | presence
  | change
  | writing
deriving DecidableEq, Repr

/-- The hurdles of a write, in order. -/
def Operation.hurdles : Operation → List Hurdle
  | .delete _ => [.access, .name, .mapping, .writing]
  | .update .. => [.access, .name, .mapping, .reading, .presence, .change, .writing]
  | _ => []

theorem Operation.hurdles_of_isWrite {operation : Operation} (isWrite : operation.isWrite = true) :
    ∃ rest, operation.hurdles = .access :: .name :: .mapping :: rest := by
  cases operation with
  | delete key => exact ⟨_, rfl⟩
  | update key change => exact ⟨_, rfl⟩
  | _ => cases isWrite

/-- The hurdle whose verdict a call in a stage waits for. -/
def Stage.hurdle? : Stage → Option Hurdle
  | .arriving | .queuing .. | .asking _ _ .locate | .asking _ _ (.review ..) => some .access
  | .asking _ _ .map => some .mapping
  | .asking _ _ (.read _) => some .reading
  | .asking _ _ .write => some .writing
  | _ => none

/-! ## Verdicts -/

inductive Verdict
  | access (allowed : Bool)
  | name (name? : Option String)
  | mapping (resource? : Option ApiResource)
  | reading (done : Bool)
  | presence (object? : Option Object)
  /-- What the change makes of the object; nothing if it fails. -/
  | change (resource : ApiResource) (changed? : Option Object)
  | writing (done : Bool)

namespace Verdict

@[simp] def hurdle : Verdict → Hurdle
  | access _ => .access
  | name _ => .name
  | mapping _ => .mapping
  | reading _ => .reading
  | presence _ => .presence
  | change .. => .change
  | writing _ => .writing

@[simp] def passed : Verdict → Bool
  | access passed | reading passed | writing passed => passed
  | name name? => name?.isSome
  | mapping resource? => resource?.isSome
  | presence object? => object?.isSome
  | change _ changed? => changed?.isSome

@[simp] def isWritten : Verdict → Bool
  | writing done => done
  | _ => false

end Verdict

/-- The request that a write starts to work on a resource with. -/
def Operation.workOn (resource : ApiResource) : Operation → Option Request
  | .delete key => some (.delete resource key.ns (key.name.getD ""))
  | .update key _ => some (.get resource key.ns (key.name.getD ""))
  | _ => none

/-- The request to read or to change an object that a verdict leads to. -/
@[simp] def Operation.request? (operation : Operation) : Verdict → Option Request
  | .mapping resource? => resource?.bind operation.workOn
  | .change resource changed? => changed?.map (.replace resource)
  | _ => none

/-- The verdict on the access. If it is allowed, the name is looked at right away. -/
def Key.admission (key : Key) (allowed : Bool) : List Verdict :=
  if allowed then [.access true, .name key.name?] else [.access false]

@[simp] def Finding.verdicts (key : Key) : Finding → List Verdict
  | .located .. => []
  | .unlocated | .unreviewed => [.access false]
  | .decided _ allowed => key.admission allowed
  | .mapped resource => [.mapping (some resource)]
  | .unmapped => [.mapping none]

/-- The verdicts on what was read. -/
def Operation.examined (resource : ApiResource) : Operation → Option Object → List Verdict
  | .update _ change, some object =>
      [.reading true, .presence (some object), .change resource (change object).toOption]
  | _, object? => [.reading true, .presence object?]

/-- The verdicts that the answer to a piece of work brings. -/
@[simp] def Stage.worked (operation : Operation) : Stage → Move → List Verdict
  | .asking _ _ (.read resource), .answer _ (.object (.ok object?)) =>
      operation.examined resource object?
  | .asking _ _ (.read _), .answer _ (.object (.error _)) => [.reading false]
  | .asking _ _ .write, .answer _ (.written result) => [.writing result.isOk]
  | _, _ => []

/-- The move lets a call in that stands at the gate. -/
@[simp] def Store.letsIn (store : Store) (call : CallId) : Stage → Move → Bool
  | .arriving, .begin _ => (store.gate.arrive call .shared).isInside call
  | .arriving, .enter _ => store.gate.isInside call
  | _, _ => false

/-- The verdicts that a call in a stage meets by a move. There is no access to a key without a
kind. -/
def Stage.verdicts (store : Store) (call : CallId) (operation : Operation) (key : Key) (verb : Verb)
    (stage : Stage) (move : Move) : List Verdict :=
  (if store.letsIn call stage move && key.kind.isEmpty then [.access false] else [])
    ++ (stage.learned store call key verb move).flatMap (Finding.verdicts key)
    ++ stage.worked operation move

/-! ## Where a write stands -/

/-- Where a write may stand, by the verdicts it has met. -/
inductive Fares (key : Key) (operation : Operation) : List Verdict → Stage → Prop
  | arriving : Fares key operation [] .arriving
  | locating (client : ClientId) :
      Fares key operation [] (.asking client (.resource key.groupVersionKind) .locate)
  | queuing (access : AccessKey) (flight : FlightId) :
      Fares key operation [] (.queuing access flight)
  | reviewing (client : ClientId) (access : AccessKey) (flight : FlightId) :
      Fares key operation [] (.asking client (.review access) (.review access flight))
  | refused (error : Error) :
      Fares key operation (key.admission false) (.finished (.error error))
  | nameless (unnamed : key.name? = none) (error : Error) :
      Fares key operation (key.admission true) (.finished (.error error))
  | mapping {name : String} (named : key.name? = some name) (client : ClientId) :
      Fares key operation (key.admission true)
        (.asking client (.resource key.groupVersionKind) .map)
  | unmapped {name : String} (named : key.name? = some name) (error : Error) :
      Fares key operation (key.admission true ++ [.mapping none]) (.finished (.error error))
  | deleting {name : String} (named : key.name? = some name) (deletes : operation = .delete key)
      (client : ClientId) (resource : ApiResource) :
      Fares key operation (key.admission true ++ [.mapping (some resource)])
        (.asking client (.delete resource key.ns name) .write)
  | reading {name : String} (named : key.name? = some name)
      {change : Object → Except Error Object} (updates : operation = .update key change)
      (client : ClientId) (resource : ApiResource) :
      Fares key operation (key.admission true ++ [.mapping (some resource)])
        (.asking client (.get resource key.ns name) (.read resource))
  | unread {name : String} (named : key.name? = some name)
      {change : Object → Except Error Object} (updates : operation = .update key change)
      (resource : ApiResource) (error : Error) :
      Fares key operation (key.admission true ++ [.mapping (some resource), .reading false])
        (.finished (.error error))
  | absent {name : String} (named : key.name? = some name)
      {change : Object → Except Error Object} (updates : operation = .update key change)
      (resource : ApiResource) (error : Error) :
      Fares key operation
        (key.admission true ++ [.mapping (some resource), .reading true, .presence none])
        (.finished (.error error))
  | unchanged {name : String} (named : key.name? = some name)
      {change : Object → Except Error Object} (updates : operation = .update key change)
      (resource : ApiResource) (object : Object) (error : Error) :
      Fares key operation
        (key.admission true ++ [.mapping (some resource), .reading true, .presence (some object),
          .change resource none])
        (.finished (.error error))
  | replacing {name : String} (named : key.name? = some name)
      {change : Object → Except Error Object} (updates : operation = .update key change)
      (client : ClientId) (resource : ApiResource) {object written : Object}
      (changed : change object = .ok written) :
      Fares key operation
        (key.admission true ++ [.mapping (some resource), .reading true, .presence (some object),
          .change resource (some written)])
        (.asking client (.replace resource written) .write)
  | unwritten {verdicts : List Verdict} {client : ClientId} {request : Request}
      (fares : Fares key operation verdicts (.asking client request .write)) (error : Error) :
      Fares key operation (verdicts ++ [.writing false]) (.finished (.error error))
  | written {verdicts : List Verdict} {client : ClientId} {request : Request}
      (fares : Fares key operation verdicts (.asking client request .write)) :
      Fares key operation (verdicts ++ [.writing true]) (.finished (.ok .done))
  | dropped {verdicts : List Verdict} {stage : Stage} (fares : Fares key operation verdicts stage)
      (pending : stage.isPending = true) : Fares key operation verdicts .dropped

/-! ## What the verdicts say -/

theorem Stage.unended_or_ended (stage : Stage) :
    stage.result? = none ∨ (∃ error, stage = .finished (.error error)) ∨
      ∃ outcome, stage = .finished (.ok outcome) := by
  cases stage with
  | finished result =>
      cases result with
      | error error => exact Or.inr (Or.inl ⟨error, rfl⟩)
      | ok outcome => exact Or.inr (Or.inr ⟨outcome, rfl⟩)
  | _ => exact Or.inl rfl

theorem passed_admission {key : Key} {name : String} (named : key.name? = some name) :
    ∀ verdict ∈ key.admission true, verdict.passed = true := by
  simp [Key.admission, named]

namespace Fares

variable {key : Key} {operation : Operation} {verdicts : List Verdict} {stage : Stage}

/-- As long as a write goes on, it has passed every hurdle that it met. -/
theorem passed_of_isPending (fares : Fares key operation verdicts stage)
    (pending : stage.isPending = true) : ∀ verdict ∈ verdicts, verdict.passed = true := by
  cases fares with
  | arriving | locating client | queuing access flight | reviewing client access flight => simp
  | mapping named client => exact passed_admission named
  | deleting named deletes client resource | reading named updates client resource
  | replacing named updates client resource changed =>
      exact List.forall_mem_append.2 ⟨passed_admission named, by simp⟩
  | _ => cases pending

/-- As long as a write goes on, it waits for the verdict on the next hurdle. -/
theorem next_of_isPending (fares : Fares key operation verdicts stage)
    (isWrite : operation.isWrite = true) (pending : stage.isPending = true) :
    ∃ hurdle, stage.hurdle? = some hurdle ∧
      verdicts.map Verdict.hurdle ++ [hurdle] <+: operation.hurdles := by
  obtain ⟨rest, same⟩ := Operation.hurdles_of_isWrite isWrite
  cases fares with
  | arriving | locating client | queuing access flight | reviewing client access flight =>
      refine ⟨.access, rfl, ?_⟩
      rw [same]
      exact ⟨_, rfl⟩
  | mapping named client =>
      refine ⟨.mapping, rfl, ?_⟩
      rw [same]
      exact ⟨_, rfl⟩
  | deleting named deletes client resource =>
      subst deletes
      exact ⟨.writing, rfl, _, rfl⟩
  | reading named updates client resource =>
      subst updates
      exact ⟨.reading, rfl, _, rfl⟩
  | replacing named updates client resource changed =>
      subst updates
      exact ⟨.writing, rfl, _, rfl⟩
  | _ => cases pending

/-- A write that waits for its last answer has met all the other hurdles. -/
theorem hurdles_of_writing {client : ClientId} {request : Request}
    (fares : Fares key operation verdicts (.asking client request .write)) :
    verdicts.map Verdict.hurdle ++ [.writing] = operation.hurdles := by
  cases fares with
  | deleting named deletes client resource =>
      subst deletes
      rfl
  | replacing named updates client resource changed =>
      subst updates
      rfl

/-- A write fails by the last verdict that it meets. -/
theorem last_of_error {error : Error} (isWrite : operation.isWrite = true)
    (fares : Fares key operation verdicts (.finished (.error error))) :
    verdicts.map Verdict.hurdle <+: operation.hurdles ∧
      ∃ early last, verdicts = early ++ [last] ∧
        (∀ verdict ∈ early, verdict.passed = true) ∧ last.passed = false := by
  obtain ⟨rest, same⟩ := Operation.hurdles_of_isWrite isWrite
  cases fares with
  | refused error =>
      refine ⟨?_, [], _, rfl, by simp, rfl⟩
      rw [same]
      exact ⟨_, rfl⟩
  | nameless unnamed error =>
      refine ⟨?_, [.access true], _, rfl, by simp, by simp [unnamed]⟩
      rw [same]
      exact ⟨_, rfl⟩
  | unmapped named error =>
      refine ⟨?_, _, _, rfl, passed_admission named, rfl⟩
      rw [same]
      exact ⟨_, rfl⟩
  | unread named updates resource error =>
      subst updates
      refine ⟨⟨_, rfl⟩, key.admission true ++ [.mapping (some resource)], _, rfl, ?_, rfl⟩
      exact List.forall_mem_append.2 ⟨passed_admission named, by simp⟩
  | absent named updates resource error =>
      subst updates
      refine ⟨⟨_, rfl⟩, key.admission true ++ [.mapping (some resource), .reading true], _, rfl, ?_,
        rfl⟩
      exact List.forall_mem_append.2 ⟨passed_admission named, by simp⟩
  | unchanged named updates resource object error =>
      subst updates
      refine ⟨⟨[.writing], rfl⟩,
        key.admission true ++ [.mapping (some resource), .reading true, .presence (some object)],
        _, rfl, ?_, rfl⟩
      exact List.forall_mem_append.2 ⟨passed_admission named, by simp⟩
  | unwritten fares error =>
      refine ⟨?_, _, _, rfl, fares.passed_of_isPending rfl, rfl⟩
      exact ⟨[], by rw [List.append_nil, List.map_append, ← fares.hurdles_of_writing]; rfl⟩

/-- A write succeeds by the verdict on the last hurdle, after it has passed all the others. -/
theorem last_of_ok {outcome : Outcome}
    (fares : Fares key operation verdicts (.finished (.ok outcome))) :
    verdicts.map Verdict.hurdle = operation.hurdles ∧
      ∃ early, verdicts = early ++ [.writing true] ∧
        ∀ verdict ∈ early, verdict.passed = true := by
  cases fares with
  | written fares =>
      refine ⟨?_, _, rfl, fares.passed_of_isPending rfl⟩
      rw [List.map_append, ← fares.hurdles_of_writing]
      rfl

/-- A write that is not over, or was given up, has passed what it met, and has not met
everything. -/
theorem passed_of_unended (fares : Fares key operation verdicts stage)
    (isWrite : operation.isWrite = true) (unended : stage.result? = none) :
    (∀ verdict ∈ verdicts, verdict.passed = true) ∧
      ∃ hurdle, verdicts.map Verdict.hurdle ++ [hurdle] <+: operation.hurdles := by
  -- To be given up brings no verdict, so what held before still holds.
  have going : ∀ {stage}, Fares key operation verdicts stage → stage.isPending = true →
      (∀ verdict ∈ verdicts, verdict.passed = true) ∧
        ∃ hurdle, verdicts.map Verdict.hurdle ++ [hurdle] <+: operation.hurdles := by
    intro stage fares pending
    obtain ⟨hurdle, _, next⟩ := fares.next_of_isPending isWrite pending
    exact ⟨fares.passed_of_isPending pending, hurdle, next⟩
  cases stage with
  | finished result => cases unended
  | dropped =>
      cases fares with
      | dropped fares pending => exact going fares pending
  | _ => exact going fares rfl

theorem order (fares : Fares key operation verdicts stage) (isWrite : operation.isWrite = true) :
    verdicts.map Verdict.hurdle <+: operation.hurdles := by
  rcases stage.unended_or_ended with unended | ⟨error, rfl⟩ | ⟨outcome, rfl⟩
  · obtain ⟨_, hurdle, next⟩ := fares.passed_of_unended isWrite unended
    exact (List.prefix_append _ _).trans next
  · exact (last_of_error isWrite fares).1
  · exact ⟨[], by rw [List.append_nil, (last_of_ok fares).1]⟩

/-- Only the last verdict can be that a hurdle was not passed. -/
theorem passed_dropLast (fares : Fares key operation verdicts stage)
    (isWrite : operation.isWrite = true) :
    ∀ verdict ∈ verdicts.dropLast, verdict.passed = true := by
  rcases stage.unended_or_ended with unended | ⟨error, rfl⟩ | ⟨outcome, rfl⟩
  · intro verdict member
    exact (fares.passed_of_unended isWrite unended).1 verdict (List.dropLast_subset _ member)
  · obtain ⟨_, early, last, same, passed, _⟩ := last_of_error isWrite fares
    rw [same, List.dropLast_concat]
    exact passed
  · obtain ⟨_, early, same, passed⟩ := last_of_ok fares
    rw [same, List.dropLast_concat]
    exact passed

theorem passed_of_ok {outcome : Outcome}
    (fares : Fares key operation verdicts (.finished (.ok outcome))) :
    ∀ verdict ∈ verdicts, verdict.passed = true := by
  obtain ⟨_, early, same, passed⟩ := last_of_ok fares
  rw [same]
  exact List.forall_mem_append.2 ⟨passed, by simp⟩

theorem fails_iff (fares : Fares key operation verdicts stage)
    (isWrite : operation.isWrite = true) :
    (∃ error, stage = .finished (.error error)) ↔
      ∃ verdict ∈ verdicts, verdict.passed = false := by
  constructor
  · rintro ⟨error, rfl⟩
    obtain ⟨_, early, last, same, _, failed⟩ := last_of_error isWrite fares
    exact ⟨last, by simp [same], failed⟩
  · rintro ⟨verdict, member, failed⟩
    rcases stage.unended_or_ended with unended | ended | ⟨outcome, rfl⟩
    · rw [(fares.passed_of_unended isWrite unended).1 verdict member] at failed
      cases failed
    · exact ended
    · rw [fares.passed_of_ok verdict member] at failed
      cases failed

theorem succeeds_iff (fares : Fares key operation verdicts stage)
    (isWrite : operation.isWrite = true) :
    (∃ outcome, stage = .finished (.ok outcome)) ↔
      verdicts.map Verdict.hurdle = operation.hurdles ∧
        ∀ verdict ∈ verdicts, verdict.passed = true := by
  constructor
  · rintro ⟨outcome, rfl⟩
    exact ⟨(last_of_ok fares).1, fares.passed_of_ok⟩
  · rintro ⟨all, passed⟩
    rcases stage.unended_or_ended with unended | ended | ended
    · obtain ⟨_, hurdle, next⟩ := fares.passed_of_unended isWrite unended
      have longer := next.length_le
      rw [all, List.length_append] at longer
      exact absurd longer (by simp)
    · obtain ⟨verdict, member, failed⟩ := (fares.fails_iff isWrite).1 ended
      rw [passed verdict member] at failed
      cases failed
    · exact ended

theorem done_of_ok {outcome : Outcome}
    (fares : Fares key operation verdicts (.finished (.ok outcome))) : outcome = .done := by
  cases fares with
  | written fares => rfl

theorem unwritten_of_isPending (fares : Fares key operation verdicts stage)
    (pending : stage.isPending = true) : verdicts.any Verdict.isWritten = false := by
  cases fares with
  | arriving | locating client | queuing access flight | reviewing client access flight
  | mapping named client | deleting named deletes client resource
  | reading named updates client resource | replacing named updates client resource changed =>
      simp [Key.admission]
  | _ => cases pending

/-- Only the verdict by which a write succeeds says that it was written. -/
theorem isWritten_iff (fares : Fares key operation verdicts stage) :
    verdicts.any Verdict.isWritten = true ↔ stage = .finished (.ok .done) := by
  cases fares with
  | unwritten fares error =>
      have before := fares.unwritten_of_isPending rfl
      simp [List.any_append, before]
  | written fares => simp
  | dropped fares pending =>
      have before := fares.unwritten_of_isPending pending
      simp [before]
  | _ => simp [Key.admission]

/-! ## The requests of a write -/

/-- A delete sends one request at most. -/
theorem requests_delete (fares : Fares key operation verdicts stage)
    (deletes : operation = .delete key) :
    verdicts.filterMap operation.request? = [] ∨
      ∃ resource name, key.name? = some name ∧
        verdicts.filterMap operation.request? = [.delete resource key.ns name] := by
  subst deletes
  induction fares with
  | deleting named deletes client resource =>
      refine Or.inr ⟨resource, _, named, ?_⟩
      simp [List.filterMap_cons, Key.admission, Operation.workOn, Key.getD_name named]
  | unwritten fares error inductionHypothesis =>
      simpa [List.filterMap_append, List.filterMap_cons] using inductionHypothesis
  | written fares inductionHypothesis =>
      simpa [List.filterMap_append, List.filterMap_cons] using inductionHypothesis
  | dropped fares pending inductionHypothesis => exact inductionHypothesis
  | reading named updates | unread named updates | absent named updates
  | unchanged named updates | replacing named updates => cases updates
  | _ => exact Or.inl (by simp [List.filterMap_cons, Key.admission])

/-- An update reads once at most, and then writes back once at most what the change has made of the
object that was read. -/
theorem requests_update (fares : Fares key operation verdicts stage)
    {change : Object → Except Error Object} (updates : operation = .update key change) :
    verdicts.filterMap operation.request? = [] ∨
      ∃ resource name, key.name? = some name ∧
        (verdicts.filterMap operation.request? = [.get resource key.ns name] ∨
          ∃ object written, .presence (some object) ∈ verdicts ∧ change object = .ok written ∧
            verdicts.filterMap operation.request? =
              [.get resource key.ns name, .replace resource written]) := by
  subst updates
  induction fares with
  | reading named updates client resource | unread named updates resource error
  | absent named updates resource error | unchanged named updates resource object error =>
      refine Or.inr ⟨resource, _, named, Or.inl ?_⟩
      simp [List.filterMap_cons, Key.admission, Operation.workOn, Key.getD_name named]
  | replacing named updates client resource changed =>
      cases updates
      refine Or.inr ⟨resource, _, named, Or.inr ⟨_, _, by simp, changed, ?_⟩⟩
      simp [List.filterMap_cons, Key.admission, Operation.workOn, Key.getD_name named]
  | unwritten fares error inductionHypothesis =>
      simpa [List.filterMap_append, List.filterMap_cons] using inductionHypothesis
  | written fares inductionHypothesis =>
      simpa [List.filterMap_append, List.filterMap_cons] using inductionHypothesis
  | dropped fares pending inductionHypothesis => exact inductionHypothesis
  | deleting named deletes => cases deletes
  | _ => exact Or.inl (by simp [List.filterMap_cons, Key.admission])

end Fares

end ClusterCache
