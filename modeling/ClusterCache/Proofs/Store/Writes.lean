import ClusterCache.Proofs.Store.Hurdles

/-!
# The steps of a write

Until it is mapped to a resource, a write only inquires. After that it sends the request that its
last verdict leads to, or ends. What the store holds is left alone by every step, and callbacks run
in the one step by which the write succeeds.
-/

namespace ClusterCache

/-- The request to read or to change an object, or to watch, that the entry notes. -/
def Entry.work? : Entry → Option Request
  | .sent _ request => if request.isInquiry then none else some request
  | _ => none

def Entry.ran? : Entry → Option String
  | .ran label => some label
  | _ => none

theorem Entry.work?_of_isInquiry {entry : Entry} (inquiry : entry.isInquiry = true) :
    entry.work? = none := by
  cases entry with
  | sent client request => exact if_pos inquiry
  | _ => rfl

theorem Entry.ran?_of_isInquiry {entry : Entry} (inquiry : entry.isInquiry = true) :
    entry.ran? = none := by
  cases entry with
  | ran label => cases inquiry
  | _ => rfl

/-- The verdicts lead to no request to read or to change an object, and none says that the write
succeeded. -/
def Operation.IsQuiet (operation : Operation) (verdicts : List Verdict) : Prop :=
  ∀ verdict ∈ verdicts, operation.request? verdict = none ∧ verdict.isWritten = false

/-- What a step of a write does, given the verdicts so far and those it meets. -/
structure Takes (key : Key) (operation : Operation) (verdicts : List Verdict) (store : Store)
    (met : List Verdict) (next : Store × Stage) : Prop where
  fares : Fares key operation (verdicts ++ met) next.2
  /-- What the step notes, in order: the requests that the verdicts lead to, and the runs of the
  callbacks if the write succeeded. -/
  journal : ∃ noted : List Entry, next.1.journal = noted.reverse ++ store.journal ∧
    noted.filterMap Entry.work? = met.filterMap operation.request? ∧
    noted.filterMap Entry.ran? =
      if met.any Verdict.isWritten then store.callbacks.map Callback.label else []
  callbacks : next.1.callbacks = store.callbacks ++
    if met.any Verdict.isWritten then store.callbacks.flatMap Callback.registers else []
  holdings : next.1.holdings = store.holdings

section Steps

variable {key : Key} {verb : Verb} {operation : Operation} {verdicts : List Verdict}
  {store : Store} {stage : Stage} {call : CallId} {move : Move}

theorem Operation.isQuiet_nil (operation : Operation) : operation.IsQuiet [] := by
  simp [IsQuiet]

theorem Operation.isQuiet_admission (operation : Operation) (key : Key) (allowed : Bool) :
    operation.IsQuiet (key.admission allowed) := by
  cases allowed <;> simp [IsQuiet, Key.admission]

theorem Takes.inquiry {met : List Verdict} {next : Store × Stage}
    (untouched : store.Untouched next.1) (quiet : operation.IsQuiet met)
    (fares : Fares key operation (verdicts ++ met) next.2) :
    Takes key operation verdicts store met next := by
  have unwritten : met.any Verdict.isWritten = false := by
    simpa using fun verdict member => (quiet verdict member).2
  obtain ⟨inquiries, journal, inquire⟩ := untouched.journal
  refine ⟨fares, ⟨inquiries.reverse, by rw [journal, List.reverse_reverse], ?_, ?_⟩, ?_,
    untouched.holdings⟩
  · have noWork : inquiries.reverse.filterMap Entry.work? = [] :=
      List.filterMap_eq_nil_iff.2 fun entry member =>
        Entry.work?_of_isInquiry (inquire entry (List.mem_reverse.1 member))
    have noRequest : met.filterMap operation.request? = [] :=
      List.filterMap_eq_nil_iff.2 fun verdict member => (quiet verdict member).1
    rw [noWork, noRequest]
  · rw [unwritten]
    exact List.filterMap_eq_nil_iff.2 fun entry member =>
      Entry.ran?_of_isInquiry (inquire entry (List.mem_reverse.1 member))
  · rw [unwritten, untouched.callbacks]
    simp

theorem Takes.stay (fares : Fares key operation verdicts stage) :
    Takes key operation verdicts store [] (store, stage) :=
  Takes.inquiry (Store.Inquires.refl store).toUntouched operation.isQuiet_nil
    (by rwa [List.append_nil])

theorem Takes.giveUp (fares : Fares key operation verdicts stage)
    (pending : stage.isPending = true) :
    Takes key operation verdicts store [] (store.giveUp call stage, .dropped) :=
  Takes.inquiry (Store.inquires_giveUp store call stage).toUntouched operation.isQuiet_nil
    (by rw [List.append_nil]; exact Fares.dropped fares pending)

theorem Takes.fail {met : List Verdict} (error : Error) (quiet : operation.IsQuiet met)
    (fares : Fares key operation (verdicts ++ met) (.finished (.error (operation.frame error)))) :
    Takes key operation verdicts store met (store.fail call operation error) :=
  Takes.inquiry (Store.inquires_fail store call operation error).toUntouched quiet fares

theorem Takes.ask {met : List Verdict} {client : ClientId} {request : Request} {purpose : Purpose}
    (isWork : request.isInquiry = false) (leads : met.filterMap operation.request? = [request])
    (unwritten : met.any Verdict.isWritten = false)
    (fares : Fares key operation (verdicts ++ met) (.asking client request purpose)) :
    Takes key operation verdicts store met (store.ask client request purpose) where
  fares := fares
  journal := by
    refine ⟨[.sent client request], rfl, ?_, by rw [unwritten]; rfl⟩
    rw [leads]
    simp [Entry.work?, isWork]
  callbacks := by
    rw [unwritten]
    exact (List.append_nil _).symm
  holdings := rfl

theorem Takes.finish (isWrite : operation.isWrite = true)
    (fares : Fares key operation (verdicts ++ [.writing true]) (.finished (.ok .done))) :
    Takes key operation verdicts store [.writing true]
      (store.finish call operation (.ok .done)) := by
  rw [Store.finish_of_isWrite store call isWrite]
  refine ⟨fares, ⟨_, rfl, ?_, ?_⟩, rfl, rfl⟩
  · simp [List.filterMap_cons, Entry.work?, Function.comp_def]
  · simp [Entry.ran?, Function.comp_def]

/-- Who passes the gate does not matter to the step. -/
theorem Takes.of_gate {gate : Gate} {met : List Verdict} {next : Store × Stage}
    (takes : Takes key operation verdicts { store with gate } met next) :
    Takes key operation verdicts store met next :=
  ⟨takes.fares, takes.journal, takes.callbacks, takes.holdings⟩

variable (store call move)

/-! ### On the way to the access -/

/-- The verdict on the access is passed on at once: a denial ends the call, and a call without a
name ends as well. -/
theorem fares_decided (isWrite : operation.isWrite = true)
    (need : operation.need? = some (key, verb)) (access : AccessKey) (allowed : Bool) :
    Fares key operation (key.admission allowed)
      (store.decided call operation access allowed).2 := by
  cases allowed with
  | false =>
      rw [Store.stage_decided_false]
      exact Fares.refused _
  | true =>
      have asks : store.decided call operation access true =
          store.askNamedMapping call operation key := by
        cases operation with
        | delete key => cases need; rfl
        | update key change => cases need; rfl
        | _ => cases isWrite
      rw [asks, Store.askNamedMapping, Key.requireName]
      cases named : key.name? with
      | none => exact Fares.nameless named _
      | some name => exact Fares.mapping named _

def Store.knownVerdicts (store : Store) (key : Key) (access : AccessKey) : List Verdict :=
  (store.knownDecision access).flatMap (Finding.verdicts key)

theorem isQuiet_knownVerdicts (access : AccessKey) :
    operation.IsQuiet (store.knownVerdicts key access) := by
  unfold Store.knownVerdicts Store.knownDecision
  split
  · simpa using operation.isQuiet_admission key _
  · exact operation.isQuiet_nil

theorem fares_atLock (isWrite : operation.isWrite = true)
    (need : operation.need? = some (key, verb)) (access : AccessKey) (flight : FlightId) :
    Fares key operation
      (if store.access.flights.isHolder flight call then store.knownVerdicts key access else [])
      (store.atLock call operation access flight).2 := by
  by_cases holder : store.access.flights.isHolder flight call = true
  · cases known : store.access.decisions.get? access with
    | none =>
        simp only [Store.atLock, Store.knownVerdicts, Store.knownDecision, holder, known]
        exact Fares.reviewing _ access flight
    | some allowed =>
        simp only [Store.atLock, Store.knownVerdicts, Store.knownDecision, holder, known]
        simpa using fares_decided _ call isWrite need access allowed
  · simp only [Store.atLock, holder]
    exact Fares.queuing access flight

theorem fares_located (isWrite : operation.isWrite = true)
    (need : operation.need? = some (key, verb)) (access : AccessKey) :
    Fares key operation (store.knownVerdicts key access)
      (store.located call operation access).2 := by
  cases known : store.access.decisions.get? access with
  | some allowed =>
      simp only [Store.located, Store.knownVerdicts, Store.knownDecision, known]
      simpa using fares_decided store call isWrite need access allowed
  | none =>
      have fares := fares_atLock
        { store with access.flights := (store.access.flights.join access call).1 }
        call isWrite need access (store.access.flights.join access call).2
      -- To join the line at the lock decides nothing.
      have unknown : store.knownVerdicts key access = [] := by
        simp [Store.knownVerdicts, Store.knownDecision, known]
      have unknownThen : Store.knownVerdicts
          { store with access.flights := (store.access.flights.join access call).1 } key access =
          [] := unknown
      rw [unknownThen, ite_self] at fares
      simpa only [Store.located, known, unknown] using fares

/-- Inside the gate, the access check begins. There is no access without a kind. -/
theorem takes_enter (need : operation.need? = some (key, verb)) :
    Takes key operation [] store (if key.kind.isEmpty then [.access false] else [])
      (store.enter call operation) := by
  have entered : store.enter call operation = store.locate call operation key := by
    simp only [Store.enter, Operation.demand?_of_need? need]
  have inquires := Store.inquires_locate store call operation key
  rw [entered]
  by_cases noKind : key.kind.isEmpty = true
  · rw [if_pos noKind]
    refine Takes.inquiry inquires.toUntouched (operation.isQuiet_admission key false) ?_
    simp only [Store.locate, noKind, if_true]
    exact Fares.refused _
  · rw [if_neg noKind]
    refine Takes.inquiry inquires.toUntouched operation.isQuiet_nil ?_
    simp only [Store.locate, noKind]
    exact Fares.locating _

theorem takes_begin (isWrite : operation.isWrite = true)
    (need : operation.need? = some (key, verb)) :
    Takes key operation [] store
      (Stage.arriving.verdicts store call operation key verb (.begin operation))
      (store.begin call operation) := by
  have shared : operation.passage? = some .shared := by
    cases operation with
    | delete key => rfl
    | update key change => rfl
    | _ => cases isWrite
  simp only [Store.begin, shared]
  by_cases inside : (store.gate.arrive call .shared).isInside call = true
  · have entered := takes_enter { store with gate := store.gate.arrive call .shared } call need
    simpa [Stage.verdicts, Stage.learned, inside] using entered.of_gate
  · have untouched := Store.untouched_of_access store (store.gate.arrive call .shared) store.access
    simpa [Stage.verdicts, Stage.learned, inside] using
      Takes.inquiry untouched operation.isQuiet_nil Fares.arriving

theorem takes_arriving (need : operation.need? = some (key, verb))
    (begun : ∀ other, move ≠ .begin other) :
    Takes key operation [] store (Stage.arriving.verdicts store call operation key verb move)
      (Call.next store call ⟨operation, .arriving⟩ move) := by
  cases move with
  | begin other => exact absurd rfl (begun other)
  | enter other =>
      by_cases inside : store.gate.isInside call = true
      · simpa [Stage.verdicts, Stage.learned, Call.next, inside]
          using takes_enter store call need
      · simpa [Stage.verdicts, Stage.learned, Call.next, inside]
          using Takes.stay Fares.arriving
  | giveUp other => exact Takes.giveUp Fares.arriving rfl
  | _ => exact Takes.stay Fares.arriving

theorem takes_locating (isWrite : operation.isWrite = true)
    (need : operation.need? = some (key, verb)) (client : ClientId) :
    let stage := Stage.asking client (.resource key.groupVersionKind) .locate
    Takes key operation [] store (stage.verdicts store call operation key verb move)
      (Call.next store call ⟨operation, stage⟩ move) := by
  have fares : Fares key operation [] _ := Fares.locating client
  have demand := Operation.demand?_of_need? need
  cases move with
  | answer other answer =>
      cases answer with
      | resource result =>
          cases result with
          | ok resource =>
              have met : (Stage.asking client (.resource key.groupVersionKind) .locate).verdicts
                  store call operation key verb (.answer other (.resource (.ok resource))) =
                  store.knownVerdicts key (key.access verb resource) := by
                simp [Stage.verdicts, Stage.learned, Store.knownVerdicts]
              simp only [met, Call.next, Store.answered, demand]
              exact Takes.inquiry (Store.inquires_located need store call _).toUntouched
                (isQuiet_knownVerdicts store _) (fares_located store call isWrite need _)
          | error error =>
              exact Takes.fail error (operation.isQuiet_admission key false) (Fares.refused _)
      | _ => exact Takes.stay fares
  | giveUp other => exact Takes.giveUp fares rfl
  | _ => exact Takes.stay fares

theorem takes_queuing (isWrite : operation.isWrite = true)
    (need : operation.need? = some (key, verb)) (access : AccessKey) (flight : FlightId) :
    let stage := Stage.queuing access flight
    Takes key operation [] store (stage.verdicts store call operation key verb move)
      (Call.next store call ⟨operation, stage⟩ move) := by
  have fares : Fares key operation [] _ := Fares.queuing access flight
  cases move with
  | takeLock other =>
      have met : (Stage.queuing access flight).verdicts store call operation key verb
          (.takeLock other) =
          if store.access.flights.isHolder flight call then store.knownVerdicts key access
          else [] := by
        by_cases holder : store.access.flights.isHolder flight call = true
        · simp [Stage.verdicts, Stage.learned, Store.knownVerdicts, holder]
        · simp [Stage.verdicts, Stage.learned, holder]
      simp only [met, Call.next]
      refine Takes.inquiry (Store.inquires_atLock need store call access flight).toUntouched ?_
        (fares_atLock store call isWrite need access flight)
      split
      · exact isQuiet_knownVerdicts store access
      · exact operation.isQuiet_nil
  | giveUp other => exact Takes.giveUp fares rfl
  | _ => exact Takes.stay fares

theorem takes_reviewing (isWrite : operation.isWrite = true)
    (need : operation.need? = some (key, verb)) (client : ClientId) (access : AccessKey)
    (flight : FlightId) :
    let stage := Stage.asking client (.review access) (.review access flight)
    Takes key operation [] store (stage.verdicts store call operation key verb move)
      (Call.next store call ⟨operation, stage⟩ move) := by
  have fares : Fares key operation [] _ := Fares.reviewing client access flight
  cases move with
  | answer other answer =>
      cases answer with
      | review result =>
          cases result with
          | ok allowed =>
              have untouched := (Store.untouched_reviewed need store call access flight allowed).1
              have met : (Stage.asking client (.review access) (.review access flight)).verdicts
                  store call operation key verb (.answer other (.review (.ok allowed))) =
                  key.admission allowed := by
                simp [Stage.verdicts, Stage.learned]
              simp only [met, Call.next, Store.answered]
              exact Takes.inquiry untouched (operation.isQuiet_admission key allowed)
                (fares_decided _ call isWrite need access allowed)
          | error error =>
              exact Takes.inquiry
                (Store.inquires_reviewed_error store call operation access flight error).toUntouched
                (operation.isQuiet_admission key false) (Fares.refused _)
      | _ => exact Takes.stay fares
  | giveUp other => exact Takes.giveUp fares rfl
  | _ => exact Takes.stay fares

/-! ### On the resource -/

theorem takes_mapping (isWrite : operation.isWrite = true)
    (need : operation.need? = some (key, verb)) {name : String} (named : key.name? = some name)
    (client : ClientId) :
    let stage := Stage.asking client (.resource key.groupVersionKind) .map
    Takes key operation (key.admission true) store
      (stage.verdicts store call operation key verb move)
      (Call.next store call ⟨operation, stage⟩ move) := by
  have fares : Fares key operation (key.admission true) _ := Fares.mapping named client
  cases move with
  | answer other answer =>
      cases answer with
      | resource result =>
          cases result with
          | ok resource =>
              cases operation with
              | delete key =>
                  cases need
                  refine Takes.ask rfl ?_ rfl ?_
                  · simp [Stage.verdicts, Stage.learned, Operation.workOn]
                  · rw [Key.getD_name named]
                    exact Fares.deleting named rfl _ resource
              | update key change =>
                  cases need
                  refine Takes.ask rfl ?_ rfl ?_
                  · simp [Stage.verdicts, Stage.learned, Operation.workOn]
                  · rw [Key.getD_name named]
                    exact Fares.reading named rfl _ resource
              | _ => cases isWrite
          | error error =>
              refine Takes.fail error ?_ (Fares.unmapped named _)
              simp [Operation.IsQuiet, Stage.verdicts, Stage.learned]
      | _ => exact Takes.stay fares
  | giveUp other => exact Takes.giveUp fares rfl
  | _ => exact Takes.stay fares

/-- What was read is changed and sent back, unless there is nothing or the change fails. -/
theorem takes_changed {change : Object → Except Error Object} {name : String}
    (named : key.name? = some name) (client : ClientId) (resource : ApiResource)
    (object? : Option Object) :
    Takes key (.update key change) (key.admission true ++ [.mapping (some resource)]) store
      ((Operation.update key change).examined resource object?)
      (store.changed call (.update key change) client resource object?) := by
  cases object? with
  | none =>
      refine Takes.fail _ ?_ ?_
      · simp [Operation.IsQuiet, Operation.examined]
      · simpa [Operation.examined] using Fares.absent named rfl resource _
  | some object =>
      cases changed : change object with
      | error error =>
          simp only [Store.changed, Operation.examined, changed]
          refine Takes.fail error ?_ ?_
          · simp [Operation.IsQuiet, Except.toOption]
          · simpa [Except.toOption] using Fares.unchanged named rfl resource object _
      | ok written =>
          simp only [Store.changed, Operation.examined, changed]
          refine Takes.ask rfl ?_ rfl ?_
          · simp [List.filterMap_cons, Except.toOption]
          · simpa [Except.toOption] using Fares.replacing named rfl client resource changed

/-- Work on a resource meets no verdicts but those on what it asked. -/
theorem verdicts_of_isWork {purpose : Purpose} (isWork : purpose.isWork = true)
    (client : ClientId) (request : Request) :
    (Stage.asking client request purpose).verdicts store call operation key verb move =
      (Stage.asking client request purpose).worked operation move := by
  simp [Stage.verdicts, learned_of_isWork store call move isWork]

theorem takes_reading {change : Object → Except Error Object} {name : String}
    (named : key.name? = some name) (client : ClientId) (resource : ApiResource) :
    let stage := Stage.asking client (.get resource key.ns name) (.read resource)
    Takes key (.update key change) (key.admission true ++ [.mapping (some resource)]) store
      (stage.verdicts store call (.update key change) key verb move)
      (Call.next store call ⟨.update key change, stage⟩ move) := by
  have fares : Fares key (.update key change) _ _ := Fares.reading named rfl client resource
  have met := @verdicts_of_isWork key verb (.update key change) store call move (.read resource) rfl
    client (.get resource key.ns name)
  simp only [met]
  cases move with
  | answer other answer =>
      cases answer with
      | object result =>
          cases result with
          | ok object? => exact takes_changed store call named client resource object?
          | error error =>
              refine Takes.fail error (by simp [Operation.IsQuiet]) ?_
              simpa using Fares.unread named rfl resource _
      | _ => exact Takes.stay fares
  | giveUp other => exact Takes.giveUp fares rfl
  | _ => exact Takes.stay fares

/-- The answer to the last request decides. -/
theorem takes_writing (isWrite : operation.isWrite = true) {client : ClientId} {request : Request}
    (fares : Fares key operation verdicts (.asking client request .write)) :
    let stage := Stage.asking client request .write
    Takes key operation verdicts store (stage.verdicts store call operation key verb move)
      (Call.next store call ⟨operation, stage⟩ move) := by
  have met := @verdicts_of_isWork key verb operation store call move .write rfl client request
  simp only [met]
  cases move with
  | answer other answer =>
      cases answer with
      | written result =>
          cases result with
          | ok done => exact Takes.finish isWrite fares.written
          | error error =>
              refine Takes.fail error ?_ (fares.unwritten _)
              simp [Operation.IsQuiet, Except.isOk, Except.toBool]
      | _ => exact Takes.stay fares
  | giveUp other => exact Takes.giveUp fares rfl
  | _ => exact Takes.stay fares

/-- A write that is over meets no verdicts any more. -/
theorem takes_over (fares : Fares key operation verdicts stage)
    (ended : stage.isPending = false) :
    Takes key operation verdicts store (stage.verdicts store call operation key verb move)
      (Call.next store call ⟨operation, stage⟩ move) := by
  cases stage with
  | finished result => cases move <;> exact Takes.stay fares
  | dropped => cases move <;> exact Takes.stay fares
  | _ => cases ended

/-- Every step of a write takes the hurdles in order. -/
theorem takes_next (isWrite : operation.isWrite = true)
    (need : operation.need? = some (key, verb)) (begun : ∀ other, move ≠ .begin other)
    (fares : Fares key operation verdicts stage) :
    Takes key operation verdicts store (stage.verdicts store call operation key verb move)
      (Call.next store call ⟨operation, stage⟩ move) := by
  by_cases pending : stage.isPending = true
  -- Where the write stands says which move brings a verdict.
  · have standing := fares
    cases fares with
    | arriving => exact takes_arriving store call move need begun
    | locating client => exact takes_locating store call move isWrite need client
    | queuing access flight => exact takes_queuing store call move isWrite need access flight
    | reviewing client access flight =>
        exact takes_reviewing store call move isWrite need client access flight
    | mapping named client => exact takes_mapping store call move isWrite need named client
    | reading named updates client resource =>
        subst updates
        exact takes_reading store call move named client resource
    | deleting named deletes client resource => exact takes_writing store call move isWrite standing
    | replacing named updates client resource changed =>
        exact takes_writing store call move isWrite standing
    | _ => cases pending
  · exact takes_over store call move fares (by simpa using pending)

end Steps

/-! ## The answer by which a write succeeds -/

theorem Finding.unwritten_verdicts (key : Key) (finding : Finding) :
    (finding.verdicts key).any Verdict.isWritten = false := by
  cases finding with
  | decided access allowed => cases allowed <;> rfl
  | _ => rfl

theorem Operation.unwritten_examined (operation : Operation) (resource : ApiResource)
    (object? : Option Object) :
    (operation.examined resource object?).any Verdict.isWritten = false := by
  unfold examined
  split <;> rfl

/-- Only a good answer to its last request says that a write succeeded. -/
theorem Stage.writing_of_isWritten {stage : Stage} {store : Store} {call : CallId}
    {operation : Operation} {key : Key} {verb : Verb} {move : Move}
    (written : (stage.verdicts store call operation key verb move).any Verdict.isWritten = true) :
    (∃ client request, stage = .asking client request .write) ∧
      ∃ other, move = .answer other (.written (.ok ())) := by
  -- Neither a refusal nor a finding is a verdict on the writing.
  have unrefused : ((if store.letsIn call stage move && key.kind.isEmpty then
      [.access false] else [] : List Verdict)).any Verdict.isWritten = false := by
    split <;> rfl
  have unlearned : ((stage.learned store call key verb move).flatMap
      (Finding.verdicts key)).any Verdict.isWritten = false := by
    rw [List.any_flatMap, List.any_eq_false]
    intro finding _
    rw [finding.unwritten_verdicts]
    exact Bool.false_ne_true
  have worked : (stage.worked operation move).any Verdict.isWritten = true := by
    simpa only [Stage.verdicts, List.any_append, unrefused, unlearned, Bool.false_or] using written
  unfold Stage.worked at worked
  split at worked
  · rw [Operation.unwritten_examined] at worked
    cases worked
  · cases worked
  · rename_i client request other result
    cases result with
    | ok done => exact ⟨⟨client, request, rfl⟩, other, rfl⟩
    | error error => cases worked
  · cases worked

end ClusterCache
