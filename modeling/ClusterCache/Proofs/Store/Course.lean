import ClusterCache.Proofs.Store.Inquiries

/-!
# The course of an operation on objects

An operation on objects asks which resource its kind is served as, then whether its verb is allowed
on that resource in its namespace, then which resource to work on. What it has learned so far
decides where it may stand. Every step keeps to this course, and as long as the operation does not
know which resource to work on, its steps only inquire.
-/

namespace ClusterCache

/-- What a call learns on the way to its permission. -/
inductive Finding
  /-- The access check learned as which resource the kind is served. -/
  | located (kind : GroupVersionKind) (resource : ApiResource)
  | unlocated
  /-- The decision on the access is known, from before or by the review just answered. -/
  | decided (access : AccessKey) (allowed : Bool)
  | unreviewed
  /-- With access granted, the operation learned which resource to work on. -/
  | mapped (resource : ApiResource)
  | unmapped

/-- The access that a verb on the objects of a key needs, if they are served as the resource. -/
def Key.access (key : Key) (verb : Verb) (resource : ApiResource) : AccessKey :=
  ⟨key.ns, resource.group, resource.plural, verb.text⟩

/-- It is known as which resource the kind is served, and that the verb is allowed on it. -/
def Permitted (key : Key) (verb : Verb) (findings : List Finding) : Prop :=
  ∃ resource, .located key.groupVersionKind resource ∈ findings ∧
    .decided (key.access verb resource) true ∈ findings

/-- The decision that is known already. -/
def Store.knownDecision (store : Store) (access : AccessKey) : List Finding :=
  match store.access.decisions.get? access with
  | some allowed => [.decided access allowed]
  | none => []

/-- What a call in a stage learns by a move. -/
def Stage.learned (store : Store) (call : CallId) (key : Key) (verb : Verb) :
    Stage → Move → List Finding
  | .asking _ (.resource kind) .locate, .answer _ (.resource (.ok resource)) =>
      .located kind resource :: store.knownDecision (key.access verb resource)
  | .asking _ _ .locate, .answer _ (.resource (.error _)) => [.unlocated]
  | .queuing access flight, .takeLock _ =>
      if store.access.flights.isHolder flight call then store.knownDecision access else []
  | .asking _ (.review access) (.review ..), .answer _ (.review (.ok allowed)) =>
      [.decided access allowed]
  | .asking _ _ (.review ..), .answer _ (.review (.error _)) => [.unreviewed]
  | .asking _ _ .map, .answer _ (.resource (.ok resource)) => [.mapped resource]
  | .asking _ _ .map, .answer _ (.resource (.error _)) => [.unmapped]
  | _, _ => []

/-! ## The course of a call -/

/-- The request completes the work on a resource. -/
def Purpose.isWork : Purpose → Bool
  | .read _ | .write => true
  | _ => false

/-- What is known when the access has been found allowed. -/
def permission (key : Key) (verb : Verb) (resource : ApiResource) : List Finding :=
  [.located key.groupVersionKind resource, .decided (key.access verb resource) true]

/-- Where a call may stand, by what it has learned. -/
inductive Course (key : Key) (verb : Verb) : List Finding → Stage → Prop
  | arriving : Course key verb [] .arriving
  | kindless (noKind : key.kind.isEmpty = true) (error : Error) :
      Course key verb [] (.finished (.error error))
  | locating (hasKind : key.kind.isEmpty = false) (client : ClientId) :
      Course key verb [] (.asking client (.resource key.groupVersionKind) .locate)
  | unlocated (hasKind : key.kind.isEmpty = false) (error : Error) :
      Course key verb [.unlocated] (.finished (.error error))
  | queuing (hasKind : key.kind.isEmpty = false) (resource : ApiResource) (flight : FlightId) :
      Course key verb [.located key.groupVersionKind resource]
        (.queuing (key.access verb resource) flight)
  | reviewing (hasKind : key.kind.isEmpty = false) (client : ClientId) (resource : ApiResource)
      (flight : FlightId) :
      Course key verb [.located key.groupVersionKind resource]
        (.asking client (.review (key.access verb resource))
          (.review (key.access verb resource) flight))
  | unreviewed (hasKind : key.kind.isEmpty = false) (resource : ApiResource) (error : Error) :
      Course key verb [.located key.groupVersionKind resource, .unreviewed]
        (.finished (.error error))
  | denied (hasKind : key.kind.isEmpty = false) (resource : ApiResource) :
      Course key verb
        [.located key.groupVersionKind resource, .decided (key.access verb resource) false]
        (.finished (.error (.accessDenied (key.access verb resource))))
  | nameless (hasKind : key.kind.isEmpty = false) (resource : ApiResource) (error : Error) :
      Course key verb (permission key verb resource) (.finished (.error error))
  | mapping (hasKind : key.kind.isEmpty = false) (client : ClientId) (resource : ApiResource) :
      Course key verb (permission key verb resource)
        (.asking client (.resource key.groupVersionKind) .map)
  | unmapped (hasKind : key.kind.isEmpty = false) (resource : ApiResource) (error : Error) :
      Course key verb (permission key verb resource ++ [.unmapped]) (.finished (.error error))
  | working (hasKind : key.kind.isEmpty = false) (resource worked : ApiResource)
      (client : ClientId) (request : Request) (purpose : Purpose)
      (isWork : purpose.isWork = true) :
      Course key verb (permission key verb resource ++ [.mapped worked])
        (.asking client request purpose)
  | ended (hasKind : key.kind.isEmpty = false) (resource worked : ApiResource)
      (result : Except Error Outcome) :
      Course key verb (permission key verb resource ++ [.mapped worked]) (.finished result)
  | dropped {findings : List Finding} {stage : Stage} (course : Course key verb findings stage)
      (pending : stage.isPending = true) : Course key verb findings .dropped

namespace Course

variable {key : Key} {verb : Verb} {findings : List Finding} {stage : Stage}

theorem permitted_permission (key : Key) (verb : Verb) (resource : ApiResource)
    (more : List Finding) : Permitted key verb (permission key verb resource ++ more) :=
  ⟨resource, by simp [permission], by simp [permission]⟩

/-- Only a call with permission learns which resource to work on. -/
theorem permitted_of_mapped (course : Course key verb findings stage) {worked : ApiResource}
    (mapped : .mapped worked ∈ findings) : Permitted key verb findings := by
  induction course with
  | working hasKind resource worked client request purpose isWork =>
      exact permitted_permission key verb resource _
  | ended hasKind resource worked result => exact permitted_permission key verb resource _
  | dropped course pending inductionHypothesis => exact inductionHypothesis mapped
  | _ => simp [permission] at mapped

/-- A call that succeeds has worked on a resource. -/
theorem mapped_of_success {outcome : Outcome}
    (course : Course key verb findings (.finished (.ok outcome))) :
    ∃ worked, .mapped worked ∈ findings := by
  cases course with
  | ended hasKind resource worked result => exact ⟨worked, by simp⟩

/-- A call whose kind could not be located, or whose access could not be reviewed, ended with an
error and has met no decision. -/
theorem failed_of_unlocated_or_unreviewed (course : Course key verb findings stage)
    (failure : .unlocated ∈ findings ∨ .unreviewed ∈ findings) :
    (∃ error, stage = .finished (.error error)) ∧
      (∀ worked, .mapped worked ∉ findings) ∧
      ∀ access allowed, .decided access allowed ∉ findings := by
  induction course with
  | unlocated hasKind error => exact ⟨⟨error, rfl⟩, by simp, by simp⟩
  | unreviewed hasKind resource error => exact ⟨⟨error, rfl⟩, by simp, by simp⟩
  | dropped course pending inductionHypothesis =>
      obtain ⟨⟨error, ended⟩, _⟩ := inductionHypothesis failure
      rw [ended] at pending
      cases pending
  | _ => simp [permission] at failure

theorem failed_of_unmapped (course : Course key verb findings stage)
    (unmapped : .unmapped ∈ findings) :
    (∃ error, stage = .finished (.error error)) ∧ ∀ worked, .mapped worked ∉ findings := by
  induction course with
  | unmapped hasKind resource error => exact ⟨⟨error, rfl⟩, by simp [permission]⟩
  | dropped course pending inductionHypothesis =>
      obtain ⟨⟨error, ended⟩, _⟩ := inductionHypothesis unmapped
      rw [ended] at pending
      cases pending
  | _ => simp [permission] at unmapped

/-- A call that met a denial ended with exactly this denial, of the access it needs. -/
theorem denied_of_decided_false (course : Course key verb findings stage) {access : AccessKey}
    (denied : .decided access false ∈ findings) :
    (∃ resource, .located key.groupVersionKind resource ∈ findings ∧
      access = key.access verb resource) ∧
      stage = .finished (.error (.accessDenied access)) ∧
      ∀ worked, .mapped worked ∉ findings := by
  induction course with
  | denied hasKind resource =>
      have same : access = key.access verb resource := by simpa using denied
      subst same
      exact ⟨⟨resource, by simp, rfl⟩, rfl, by simp⟩
  | dropped course pending inductionHypothesis =>
      obtain ⟨_, ended, _⟩ := inductionHypothesis denied
      rw [ended] at pending
      cases pending
  | _ => simp [permission] at denied

/-- Every decision that a call meets is on the access it needs. -/
theorem access_of_decided (course : Course key verb findings stage) {access : AccessKey}
    {allowed : Bool} (decided : .decided access allowed ∈ findings) :
    ∃ resource, .located key.groupVersionKind resource ∈ findings ∧
      access = key.access verb resource := by
  induction course with
  | denied hasKind resource =>
      refine ⟨resource, by simp, ?_⟩
      have same : access = key.access verb resource ∧ allowed = false := by simpa using decided
      exact same.1
  | nameless hasKind resource error =>
      exact ⟨resource, by simp [permission], by simp_all [permission]⟩
  | mapping hasKind client resource =>
      exact ⟨resource, by simp [permission], by simp_all [permission]⟩
  | unmapped hasKind resource error =>
      exact ⟨resource, by simp [permission], by simp_all [permission]⟩
  | working hasKind resource worked client request purpose isWork =>
      exact ⟨resource, by simp [permission], by simp_all [permission]⟩
  | ended hasKind resource worked result =>
      exact ⟨resource, by simp [permission], by simp_all [permission]⟩
  | dropped course pending inductionHypothesis => exact inductionHypothesis decided
  | _ => simp at decided

/-- Without a kind a call learns nothing: it waits at the gate, was given up, or ended with an
error. -/
theorem failed_of_kindless (course : Course key verb findings stage)
    (noKind : key.kind.isEmpty = true) :
    findings = [] ∧
      (stage = .arriving ∨ stage = .dropped ∨ ∃ error, stage = .finished (.error error)) := by
  induction course with
  | arriving => exact ⟨rfl, Or.inl rfl⟩
  | kindless noKind error => exact ⟨rfl, Or.inr (Or.inr ⟨error, rfl⟩)⟩
  | dropped course pending inductionHypothesis =>
      exact ⟨inductionHypothesis.1, Or.inr (Or.inl rfl)⟩
  | _ => simp_all

end Course

/-! ## Steps of the course -/

/-- What a step of a call does, given what the call has learned before and learns now. -/
structure Advance (key : Key) (verb : Verb) (findings : List Finding) (store : Store)
    (move : Move) (learned : List Finding) (next : Store × Stage) : Prop where
  course : Course key verb (findings ++ learned) next.2
  /-- Nothing is touched before it is known which resource to work on. -/
  untouched : (∀ worked, .mapped worked ∉ findings ++ learned) → store.Untouched next.1
  /-- Who learns which resource to work on had permission before. -/
  permitted : (∃ worked, .mapped worked ∈ findings ++ learned) → Permitted key verb findings
  /-- The decisions stay, apart from one that a review has just made. -/
  decisions : next.1.access.decisions = store.access.decisions ∨
    ∃ call access allowed, move = .answer call (.review (.ok allowed)) ∧
      learned = [.decided access allowed] ∧
      next.1.access.decisions = store.access.decisions.insert access allowed

section Steps

variable {key : Key} {verb : Verb} {findings : List Finding} {store : Store}
  {operation : Operation} {stage : Stage} {call : CallId} {move : Move}

/-- A step that only inquires. -/
theorem Advance.inquiry {learned : List Finding} {next : Store × Stage}
    (before : Course key verb findings stage) (inquires : store.Inquires next.1)
    (unmapped : ∀ worked, .mapped worked ∉ learned)
    (course : Course key verb (findings ++ learned) next.2) :
    Advance key verb findings store move learned next where
  course := course
  untouched _ := inquires.toUntouched
  permitted := by
    rintro ⟨worked, member⟩
    rcases List.mem_append.1 member with known | isNew
    · exact before.permitted_of_mapped known
    · exact absurd isNew (unmapped worked)
  decisions := Or.inl inquires.decisions

/-- A move that is not possible. -/
theorem Advance.stay (course : Course key verb findings stage) :
    Advance key verb findings store move [] (store, stage) :=
  Advance.inquiry course (Store.Inquires.refl store) (fun _ => List.not_mem_nil)
    (by rwa [List.append_nil])

theorem Advance.giveUp (course : Course key verb findings stage)
    (pending : stage.isPending = true) :
    Advance key verb findings store move [] (store.giveUp call stage, .dropped) :=
  Advance.inquiry course (Store.inquires_giveUp store call stage) (fun _ => List.not_mem_nil)
    (by rw [List.append_nil]; exact Course.dropped course pending)

/-- A step of the work on a resource. -/
theorem Advance.work (resource worked : ApiResource)
    {next : Store × Stage} (access : next.1.access = store.access)
    (course : Course key verb (permission key verb resource ++ [.mapped worked]) next.2) :
    Advance key verb (permission key verb resource ++ [.mapped worked]) store move [] next where
  course := by rwa [List.append_nil]
  untouched unmapped := absurd (by simp) (unmapped worked)
  permitted _ := Course.permitted_permission key verb resource _
  decisions := Or.inl (congrArg AccessGate.decisions access)

variable (store call move)

/-- A call that is over learns nothing and stays as it is. -/
theorem advance_over (course : Course key verb findings stage)
    (ended : stage.isPending = false) :
    Advance key verb findings store move (stage.learned store call key verb move)
      (Call.next store call ⟨operation, stage⟩ move) := by
  cases stage with
  | finished result => cases move <;> exact Advance.stay course
  | dropped => cases move <;> exact Advance.stay course
  | _ => cases ended

theorem stage_locate (noKind : key.kind.isEmpty = true ∨ key.kind.isEmpty = false) :
    Course key verb [] (store.locate call operation key).2 := by
  rcases noKind with noKind | hasKind
  · simp only [Store.locate, noKind, if_true]
    exact Course.kindless noKind _
  · simp only [Store.locate, hasKind]
    exact Course.locating hasKind _

/-- Inside the gate, the access check begins. -/
theorem advance_enter (need : operation.need? = some (key, verb)) :
    Advance key verb [] store move [] (store.enter call operation) := by
  have entered : store.enter call operation = store.locate call operation key := by
    simp only [Store.enter, Operation.demand?_of_need? need]
  rw [entered]
  exact Advance.inquiry Course.arriving (Store.inquires_locate store call operation key)
    (fun _ => List.not_mem_nil) (stage_locate store call (by cases key.kind.isEmpty <;> simp))

theorem advance_arriving (need : operation.need? = some (key, verb)) :
    Advance key verb [] store move (Stage.arriving.learned store call key verb move)
      (Call.next store call ⟨operation, .arriving⟩ move) := by
  cases move with
  | enter other =>
      by_cases inside : store.gate.isInside call = true
      · simp only [Call.next, inside, if_true]
        exact advance_enter store call _ need
      · simp only [Call.next, inside]
        exact Advance.stay Course.arriving
  | giveUp other => exact Advance.giveUp Course.arriving rfl
  | _ => exact Advance.stay Course.arriving

/-- A known decision lets the call go on, or ends it with the denial. -/
theorem course_decided (need : operation.need? = some (key, verb))
    (hasKind : key.kind.isEmpty = false) (resource : ApiResource) (allowed : Bool) :
    Course key verb
      [.located key.groupVersionKind resource, .decided (key.access verb resource) allowed]
      (store.decided call operation (key.access verb resource) allowed).2 := by
  cases allowed with
  | false =>
      rw [Store.stage_decided_false]
      exact Course.denied hasKind resource
  | true =>
      rcases Store.stage_decided_true need store call (key.access verb resource) with
        asking | ⟨error, ended⟩
      · rw [asking]
        exact Course.mapping hasKind _ resource
      · rw [ended]
        exact Course.nameless hasKind resource error

/-- At the lock of its review, the call waits, or finds the decision made, or asks for it. -/
theorem course_atLock (need : operation.need? = some (key, verb))
    (hasKind : key.kind.isEmpty = false) (resource : ApiResource) (flight : FlightId) :
    Course key verb
      (.located key.groupVersionKind resource ::
        if store.access.flights.isHolder flight call then
          store.knownDecision (key.access verb resource)
        else [])
      (store.atLock call operation (key.access verb resource) flight).2 := by
  by_cases holder : store.access.flights.isHolder flight call = true
  · cases known : store.access.decisions.get? (key.access verb resource) with
    | none =>
        simp only [Store.atLock, Store.knownDecision, holder, known]
        exact Course.reviewing hasKind _ resource flight
    | some allowed =>
        simp only [Store.atLock, Store.knownDecision, holder, known]
        exact course_decided _ call need hasKind resource allowed
  · simp only [Store.atLock, holder]
    exact Course.queuing hasKind resource flight

theorem course_located (need : operation.need? = some (key, verb))
    (hasKind : key.kind.isEmpty = false) (resource : ApiResource) :
    Course key verb
      (.located key.groupVersionKind resource ::
        store.knownDecision (key.access verb resource))
      (store.located call operation (key.access verb resource)).2 := by
  cases known : store.access.decisions.get? (key.access verb resource) with
  | some allowed =>
      simp only [Store.located, Store.knownDecision, known]
      exact course_decided store call need hasKind resource allowed
  | none =>
      have course := course_atLock
        { store with
          access.flights := (store.access.flights.join (key.access verb resource) call).1 }
        call need hasKind resource
        (store.access.flights.join (key.access verb resource) call).2
      simp only [Store.knownDecision, known, ite_self] at course
      simpa only [Store.located, Store.knownDecision, known] using course

theorem advance_locating (need : operation.need? = some (key, verb))
    (hasKind : key.kind.isEmpty = false) (client : ClientId) :
    let stage := Stage.asking client (.resource key.groupVersionKind) .locate
    Advance key verb [] store move (stage.learned store call key verb move)
      (Call.next store call ⟨operation, stage⟩ move) := by
  have course : Course key verb [] _ := Course.locating hasKind client
  have demand := Operation.demand?_of_need? need
  cases move with
  | answer other answer =>
      cases answer with
      | resource result =>
          cases result with
          | ok resource =>
              have unmapped : ∀ worked, Finding.mapped worked ∉
                  .located key.groupVersionKind resource ::
                    store.knownDecision (key.access verb resource) := by
                intro worked
                cases known : store.access.decisions.get? (key.access verb resource) <;>
                  simp [Store.knownDecision, known]
              have inquires := Store.inquires_located need store call (key.access verb resource)
              have after := course_located store call need hasKind resource
              simp only [Call.next, Store.answered, demand, Stage.learned]
              exact Advance.inquiry course inquires unmapped after
          | error error =>
              exact Advance.inquiry course (Store.inquires_fail store call operation error)
                (by simp [Stage.learned]) (Course.unlocated hasKind _)
      | _ => exact Advance.stay course
  | giveUp other => exact Advance.giveUp course rfl
  | _ => exact Advance.stay course

theorem advance_queuing (need : operation.need? = some (key, verb))
    (hasKind : key.kind.isEmpty = false) (resource : ApiResource) (flight : FlightId) :
    let stage := Stage.queuing (key.access verb resource) flight
    Advance key verb [.located key.groupVersionKind resource] store move
      (stage.learned store call key verb move)
      (Call.next store call ⟨operation, stage⟩ move) := by
  have course : Course key verb _ _ :=
    Course.queuing hasKind resource flight
  cases move with
  | takeLock other =>
      have unmapped : ∀ worked, Finding.mapped worked ∉
          if store.access.flights.isHolder flight call = true then
            store.knownDecision (key.access verb resource)
          else [] := by
        intro worked
        cases known : store.access.decisions.get? (key.access verb resource) <;>
          simp [Store.knownDecision, known]
      exact Advance.inquiry course
        (Store.inquires_atLock need store call (key.access verb resource) flight) unmapped
        (course_atLock store call need hasKind resource flight)
  | giveUp other => exact Advance.giveUp course rfl
  | _ => exact Advance.stay course

theorem advance_reviewing (need : operation.need? = some (key, verb))
    (hasKind : key.kind.isEmpty = false) (client : ClientId) (resource : ApiResource)
    (flight : FlightId) :
    let access := key.access verb resource
    let stage := Stage.asking client (.review access) (.review access flight)
    Advance key verb [.located key.groupVersionKind resource] store move
      (stage.learned store call key verb move)
      (Call.next store call ⟨operation, stage⟩ move) := by
  have course : Course key verb _ _ :=
    Course.reviewing hasKind client resource flight
  cases move with
  | answer other answer =>
      cases answer with
      | review result =>
          cases result with
          | ok allowed =>
              obtain ⟨untouched, inserted⟩ := Store.untouched_reviewed need store call
                (key.access verb resource) flight allowed
              exact
                { course := course_decided _ call need hasKind resource allowed
                  untouched := fun _ => untouched
                  permitted := by simp [Stage.learned]
                  decisions := Or.inr ⟨other, key.access verb resource, allowed, rfl, rfl,
                    inserted⟩ }
          | error error =>
              exact Advance.inquiry course
                (Store.inquires_reviewed_error store call operation _ flight error)
                (by simp [Stage.learned]) (Course.unreviewed hasKind resource _)
      | _ => exact Advance.stay course
  | giveUp other => exact Advance.giveUp course rfl
  | _ => exact Advance.stay course

theorem course_finish (hasKind : key.kind.isEmpty = false) (resource worked : ApiResource)
    (store : Store) (result : Except Error Outcome) :
    Course key verb (permission key verb resource ++ [.mapped worked])
      (store.finish call operation result).2 := by
  cases result with
  | ok outcome => exact Course.ended hasKind resource worked _
  | error error => exact Course.ended hasKind resource worked _

/-- Working on a resource ends the call, or leaves a request to be answered. -/
theorem course_mapped (need : operation.need? = some (key, verb))
    (hasKind : key.kind.isEmpty = false) (resource worked : ApiResource) :
    Course key verb (permission key verb resource ++ [.mapped worked])
      (store.mapped call operation worked).2 := by
  have finished := @course_finish key verb operation call hasKind resource worked
  cases operation with
  | list key => exact finished _ _
  | get key => exact finished _ _
  | watch key listener type => exact finished _ _
  | delete key => exact Course.working hasKind resource worked _ _ .write rfl
  | update key change => exact Course.working hasKind resource worked _ _ (.read worked) rfl
  | _ => cases need

theorem advance_mapping (need : operation.need? = some (key, verb))
    (hasKind : key.kind.isEmpty = false) (client : ClientId) (resource : ApiResource) :
    let stage := Stage.asking client (.resource key.groupVersionKind) .map
    Advance key verb (permission key verb resource) store move
      (stage.learned store call key verb move)
      (Call.next store call ⟨operation, stage⟩ move) := by
  have course : Course key verb _ _ :=
    Course.mapping hasKind client resource
  cases move with
  | answer other answer =>
      cases answer with
      | resource result =>
          cases result with
          | ok worked =>
              exact
                { course := course_mapped store call need hasKind resource worked
                  untouched := fun unmapped => absurd (by simp [Stage.learned]) (unmapped worked)
                  permitted := fun _ => by
                    simpa using Course.permitted_permission key verb resource []
                  decisions := Or.inl (congrArg AccessGate.decisions
                    (Store.access_mapped store call operation worked)) }
          | error error =>
              exact Advance.inquiry course (Store.inquires_fail store call operation error)
                (by simp [Stage.learned]) (Course.unmapped hasKind resource _)
      | _ => exact Advance.stay course
  | giveUp other => exact Advance.giveUp course rfl
  | _ => exact Advance.stay course

/-- Work on a resource has nothing more to learn. -/
theorem learned_of_isWork {purpose : Purpose} (isWork : purpose.isWork = true)
    (client : ClientId) (request : Request) :
    (Stage.asking client request purpose).learned store call key verb move = [] := by
  cases purpose with
  | read source => cases request <;> cases move <;> rfl
  | write => cases request <;> cases move <;> rfl
  | _ => cases isWork

theorem advance_working (hasKind : key.kind.isEmpty = false) (resource worked : ApiResource)
    (client : ClientId) (request : Request) (purpose : Purpose)
    (isWork : purpose.isWork = true) :
    let stage := Stage.asking client request purpose
    Advance key verb (permission key verb resource ++ [.mapped worked]) store move
      (stage.learned store call key verb move)
      (Call.next store call ⟨operation, stage⟩ move) := by
  have course : Course key verb _ _ :=
    Course.working hasKind resource worked client request purpose isWork
  simp only [learned_of_isWork store call move isWork]
  have finished := @course_finish key verb operation call hasKind resource worked
  cases move with
  | answer other answer =>
      cases purpose with
      | read source =>
          cases answer with
          | object result =>
              cases result with
              | ok object =>
                  refine Advance.work resource worked
                    (Store.access_changed store call operation client source object) ?_
                  simp only [Call.next, Store.answered, Store.changed]
                  split
                  · split
                    · exact finished _ _
                    · split
                      · exact finished _ _
                      · exact Course.working hasKind resource worked _ _ .write rfl
                  · exact finished _ _
              | error error => exact Advance.work resource worked rfl (finished _ _)
          | _ => exact Advance.stay course
      | write =>
          cases answer with
          | written result =>
              cases result with
              | ok done =>
                  exact Advance.work resource worked
                    (Store.access_finish store call operation _) (finished _ _)
              | error error => exact Advance.work resource worked rfl (finished _ _)
          | _ => exact Advance.stay course
      | _ => cases isWork
  | giveUp other => exact Advance.giveUp course rfl
  | _ => exact Advance.stay course

/-- Every step of an operation on objects keeps to its course. -/
theorem advance (need : operation.need? = some (key, verb))
    (course : Course key verb findings stage) :
    Advance key verb findings store move (stage.learned store call key verb move)
      (Call.next store call ⟨operation, stage⟩ move) := by
  cases course with
  | arriving => exact advance_arriving store call move need
  | locating hasKind client => exact advance_locating store call move need hasKind client
  | queuing hasKind resource flight =>
      exact advance_queuing store call move need hasKind resource flight
  | reviewing hasKind client resource flight =>
      exact advance_reviewing store call move need hasKind client resource flight
  | mapping hasKind client resource =>
      exact advance_mapping store call move need hasKind client resource
  | working hasKind resource worked client request purpose isWork =>
      exact advance_working store call move hasKind resource worked client request purpose isWork
  | kindless noKind error => exact advance_over store call move (Course.kindless noKind error) rfl
  | unlocated hasKind error =>
      exact advance_over store call move (Course.unlocated hasKind error) rfl
  | unreviewed hasKind resource error =>
      exact advance_over store call move (Course.unreviewed hasKind resource error) rfl
  | denied hasKind resource =>
      exact advance_over store call move (Course.denied hasKind resource) rfl
  | nameless hasKind resource error =>
      exact advance_over store call move (Course.nameless hasKind resource error) rfl
  | unmapped hasKind resource error =>
      exact advance_over store call move (Course.unmapped hasKind resource error) rfl
  | ended hasKind resource worked result =>
      exact advance_over store call move (Course.ended hasKind resource worked result) rfl
  | dropped course pending => exact advance_over store call move (Course.dropped course pending) rfl

theorem advance_begin (need : operation.need? = some (key, verb)) :
    Advance key verb [] store move [] (store.begin call operation) := by
  have passage : operation.passage? = some .shared := by
    cases operation <;> cases need <;> rfl
  have arrived := Store.inquires_of_flights store (store.gate.arrive call .shared)
    store.access.flights
  simp only [Store.begin, passage]
  split
  · have entered := advance_enter { store with gate := store.gate.arrive call .shared } call move
      need
    exact
      { course := entered.course
        untouched := fun unmapped => arrived.toUntouched.trans (entered.untouched unmapped)
        permitted := entered.permitted
        decisions := entered.decisions }
  · exact Advance.inquiry Course.arriving arrived (fun _ => List.not_mem_nil) Course.arriving

end Steps

end ClusterCache
