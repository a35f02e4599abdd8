import ClusterCache.Proofs.Store.Questions
import ClusterCache.Proofs.Store.Settling
import ClusterCache.Proofs.System.Moves

/-!
# No scope is stuck loading

The clients map kinds to types by one injective partial map; a question as which resource a kind is
served may also fail. Then, in whatever order the calls, the loops and the waiters move, as long as
the store is not shut down, the records stay in step with the informers. Main statement: whatever
the records say is borne out by the live informers and the pending waiters, and the waiters can
always settle.
-/

namespace ClusterCache

/-! ## Ordinary moves -/

/-- The keys that the operation records are plain, and its listener only registers and removes
listeners: it neither shuts the store down nor stops an informer behind its back. -/
def Operation.IsOrdinary : Operation → Prop
  | .list key | .get key => key.IsPlain
  | .watch key listener _ => key.IsPlain ∧ listener.isTame = true
  | _ => True

/-- If the call asked about a kind, the answer maps it as given or is an error. -/
def Stage.MapsBy (typeOf : GroupVersionKind → Option ResourceType) (answer : Answer) :
    Stage → Prop
  | .asking _ (.resource kind) _ =>
      ∀ resource, answer = .resource (.ok resource) → typeOf kind = some (.ofResource resource)
  | _ => True

section Deeds

variable (typeOf : GroupVersionKind → Option ResourceType)

theorem Operation.isLawful_entryDeed (operation : Operation) :
    operation.entryDeed.IsLawful typeOf := by
  cases operation <;> trivial

theorem Operation.isLawful_beginDeed (store : Store) (call : CallId) (operation : Operation) :
    (operation.beginDeed store call).IsLawful typeOf := by
  unfold beginDeed
  split
  · exact operation.isLawful_entryDeed typeOf
  · split
    · exact operation.isLawful_entryDeed typeOf
    · trivial

variable {typeOf}

theorem Operation.isLawful_mappedDeed {operation : Operation} (ordinary : operation.IsOrdinary)
    {resource : ApiResource}
    (mapped : ∀ key verb, operation.need? = some (key, verb) →
      typeOf key.groupVersionKind = some (.ofResource resource)) :
    (operation.mappedDeed resource).IsLawful typeOf := by
  cases operation with
  | list key => exact ⟨ordinary, mapped key .list rfl⟩
  | get key => exact ⟨ordinary, mapped key .get rfl⟩
  | watch key listener type => exact ⟨ordinary.1, mapped key .watch rfl, ordinary.2⟩
  | _ => trivial

theorem Operation.isLawful_answerDeed {operation : Operation} (ordinary : operation.IsOrdinary)
    {client : ClientId} {request : Request} {purpose : Purpose} {answer : Answer}
    (faithful : (Stage.asking client request purpose).IsFaithful operation)
    (maps : (Stage.asking client request purpose).MapsBy typeOf answer) :
    (operation.answerDeed purpose answer).IsLawful typeOf := by
  unfold answerDeed
  split
  · rename_i resource
    refine Operation.isLawful_mappedDeed ordinary ?_
    intro key verb need
    have asked : request = .resource key.groupVersionKind := faithful key verb need
    subst asked
    exact maps resource rfl
  · rename_i kind rest resource
    have asked : request = .resource kind := faithful
    subst asked
    exact maps resource rfl
  · trivial

theorem Call.isLawful_deed (store : Store) (call : CallId) {current : Call}
    (ordinary : current.operation.IsOrdinary)
    (faithful : current.stage.IsFaithful current.operation) {move : Move}
    (maps : ∀ other answer, move = .answer other answer → current.stage.MapsBy typeOf answer) :
    (current.deed store call move).IsLawful typeOf := by
  obtain ⟨operation, stage⟩ := current
  cases move with
  | enter other =>
      cases stage with
      | arriving =>
          simp only [deed]
          split
          · exact operation.isLawful_entryDeed typeOf
          · trivial
      | _ => trivial
  | answer other answer =>
      cases stage with
      | asking client request purpose =>
          exact Operation.isLawful_answerDeed ordinary faithful (maps other answer rfl)
      | _ => trivial
  | _ => trivial

end Deeds

namespace System

/-- The move of the system is not a shutdown, begins only ordinary operations and answers as the
kinds are mapped. -/
def IsOrdinary (typeOf : GroupVersionKind → Option ResourceType) (system : System) :
    Move → Prop
  | .begin operation => operation.IsOrdinary
  | .answer call answer =>
      ∀ current, system.calls[call]? = some current → current.stage.MapsBy typeOf answer
  | .shutdown => False
  | _ => True

/-- Every move of the run is allowed where it is made. -/
def Every (allowed : System → Move → Prop) : System → List Move → Prop
  | _, [] => True
  | system, move :: moves => allowed system move ∧ Every allowed (system.apply move) moves

/-! ## The invariant -/

/-- The records are in step with the informers, and the calls are ordinary and faithful. -/
structure InStep (typeOf : GroupVersionKind → Option ResourceType) (system : System) :
    Prop where
  tracked : Tracked typeOf system.store.holdings
  calls : ∀ {call : CallId} {current : Call}, system.calls[call]? = some current →
    current.operation.IsOrdinary ∧ current.stage.IsFaithful current.operation

theorem inStep_start (typeOf : GroupVersionKind → Option ResourceType) (config : StoreConfig)
    (client : ClientId) : (start config client).InStep typeOf where
  tracked := Tracked.start typeOf config client
  calls called := by cases called

variable {typeOf : GroupVersionKind → Option ResourceType} {system : System} {move : Move}

/-- What an ordinary move of a call does to the store is lawful. -/
theorem InStep.isLawful_deed (inStep : system.InStep typeOf)
    (ordinary : system.IsOrdinary typeOf move) : (system.deed move).IsLawful typeOf := by
  cases move with
  | begin operation => exact operation.isLawful_beginDeed typeOf system.store _
  | enter call | takeLock call | giveUp call =>
      simp only [deed]
      split
      · rename_i current called
        obtain ⟨ordinaryOperation, faithful⟩ := inStep.calls called
        exact Call.isLawful_deed system.store call ordinaryOperation faithful (by rintro _ _ ⟨⟩)
      · trivial
  | answer call answer =>
      simp only [deed]
      split
      · rename_i current called
        obtain ⟨ordinaryOperation, faithful⟩ := inStep.calls called
        refine Call.isLawful_deed system.store call ordinaryOperation faithful ?_
        rintro _ _ ⟨⟩
        exact ordinary current called
      · trivial
  | _ => trivial

theorem InStep.calls_apply (inStep : system.InStep typeOf)
    (ordinary : system.IsOrdinary typeOf move) {call : CallId} {current : Call}
    (called : (system.apply move).calls[call]? = some current) :
    current.operation.IsOrdinary ∧ current.stage.IsFaithful current.operation := by
  by_cases own : system.isMoveOf call move = true
  · cases before : system.calls[call]? with
    | some earlier =>
        obtain ⟨_, callsAfter⟩ := apply_of_isMoveOf before own
        rw [callsAfter] at called
        obtain ⟨ordinaryOperation, faithful⟩ := inStep.calls before
        rw [← Option.some.inj called]
        exact ⟨ordinaryOperation, Call.faithful_next system.store call faithful move⟩
    | none =>
        obtain ⟨operation, rfl, _, callsAfter⟩ := begin_of_isMoveOf before own
        rw [callsAfter] at called
        rw [← Option.some.inj called]
        exact ⟨ordinary, Store.faithful_begin system.store call operation⟩
  · rw [calls_of_not_isMoveOf (by simpa using own)] at called
    exact inStep.calls called

section Run

variable (injective : ∀ {kind other : GroupVersionKind} {type : ResourceType},
  typeOf kind = some type → typeOf other = some type → kind = other)

include injective

/-- An ordinary move keeps the records in step. -/
theorem InStep.apply (inStep : system.InStep typeOf)
    (ordinary : system.IsOrdinary typeOf move) : (system.apply move).InStep typeOf where
  calls called := inStep.calls_apply ordinary called
  tracked := by
    have tracked := inStep.tracked
    by_cases isCall : move.isCall = true
    · rw [holdings_apply isCall]
      exact tracked.perform injective (inStep.isLawful_deed ordinary)
    · cases move with
      | send id item =>
          refine tracked.modify id (·.send item) (Informer.token_send _ item)
            (Informer.type_send _ item) ?_ ?_ system.store.registrations
          · rw [Informer.replica_send]
            exact fun synced => synced
          · rw [Informer.handlers_send]
            exact tracked.tame id
      | endStream id =>
          exact tracked.modify id (·.endStream) rfl rfl (fun synced => synced)
            (tracked.tame id) system.store.registrations
      | turn id => exact tracked.turn id
      | wake id =>
          simp only [System.apply, System.modify]
          split
          · rename_i waiter found
            exact tracked.wake (List.mem_of_find?_eq_some found)
          · exact tracked
      | shutdown => exact ordinary.elim
      | onUpdate callback => exact tracked
      | presetDecision access allowed => exact tracked
      | forgetDecisions => exact tracked
      | changeAccessClient client => exact tracked
      | begin operation | enter call | takeLock call | answer call answer | giveUp call =>
          exact absurd rfl isCall

theorem InStep.run (inStep : system.InStep typeOf) {moves : List Move}
    (ordinary : system.Every (IsOrdinary typeOf) moves) : (system.run moves).InStep typeOf := by
  induction moves generalizing system with
  | nil => exact inStep
  | cons move rest inductionHypothesis =>
      obtain ⟨ordinaryMove, ordinaryRest⟩ := ordinary
      exact inductionHypothesis (inStep.apply injective ordinaryMove) ordinaryRest

/-- The waiters can always settle: each of them leaves as soon as it has something to do. -/
theorem InStep.exists_settled (inStep : system.InStep typeOf) :
    ∃ wakes : List Nat, (system.run (wakes.map Move.wake)).store.Settled := by
  -- By induction on the number of waiters that are left.
  induction left : system.store.waiters.length using Nat.strongRecOn
    generalizing system with
  | _ count inductionHypothesis =>
      by_cases settled : system.store.Settled
      · exact ⟨[], settled⟩
      · obtain ⟨waiter, member, due⟩ :
            ∃ waiter ∈ system.store.waiters, ¬ system.store.Waiting waiter := by
          simpa [Store.Settled] using settled
        have woken : (system.apply (.wake waiter.id)).store = system.store.wake waiter := by
          simp only [System.apply, System.modify, inStep.tracked.find?_waiters member]
        have fewer := Store.length_waiters_wake member due
        rw [← woken, left] at fewer
        have ordinary : system.IsOrdinary typeOf (.wake waiter.id) := trivial
        obtain ⟨wakes, settledLater⟩ :=
          inductionHypothesis _ fewer (inStep.apply injective ordinary) rfl
        exact ⟨waiter.id :: wakes, settledLater⟩

/-- In every state that ordinary moves lead to, what the records say is borne out, and some wakes
of waiters lead on to a state in which they have settled. -/
theorem loading_borne_out (config : StoreConfig) (client : ClientId) {moves : List Move}
    (ordinary : (start config client).Every (IsOrdinary typeOf) moves) :
    ((start config client).run moves).store.BorneOut typeOf ∧
      ∃ wakes : List Nat,
        ((start config client).run (moves ++ wakes.map Move.wake)).store.Settled := by
  have inStep := (inStep_start typeOf config client).run injective ordinary
  obtain ⟨wakes, settled⟩ := inStep.exists_settled injective
  rw [← run_append] at settled
  exact ⟨inStep.tracked.borneOut, wakes, settled⟩

end Run

/-! A run in which nodes are listed, forgotten before the first waiter looks, and listed again. -/

def nodeKey : Key := .ofScope "" "v1" "Node"

def nodeType (kind : GroupVersionKind) : Option ResourceType :=
  if kind = nodeKey.groupVersionKind then some ⟨"", "v1", "nodes"⟩ else none

def nodeAnswer : Answer := .resource (.ok (.served "" "v1" "Node" "nodes"))

def nodeRun : List Move :=
  [.presetDecision ⟨"", "", "nodes", Verb.list.text⟩ true,
    .begin (.list nodeKey), .answer 0 nodeAnswer, .answer 0 nodeAnswer,
    .send 0 (.event .init), .send 0 (.event .initDone), .turn 0, .turn 0,
    .begin (.unwatch [nodeKey.groupVersionKind]), .answer 1 nodeAnswer,
    .begin (.list nodeKey), .answer 2 nodeAnswer, .answer 2 nodeAnswer, .wake 0]

theorem loading_borne_out_nodes :
    (∀ {kind other : GroupVersionKind} {type : ResourceType},
        nodeType kind = some type → nodeType other = some type → kind = other) ∧
      (start .standard 0).Every (IsOrdinary nodeType) nodeRun ∧
      ((start .standard 0).run nodeRun).store.BorneOut nodeType ∧
      ∃ wakes : List Nat,
        ((start .standard 0).run (nodeRun ++ wakes.map Move.wake)).store.Settled := by
  have injective : ∀ {kind other : GroupVersionKind} {type : ResourceType},
      nodeType kind = some type → nodeType other = some type → kind = other := by
    intro kind other type mapped otherMapped
    unfold nodeType at mapped otherMapped
    split at mapped
    · split at otherMapped
      · simp_all
      · cases otherMapped
    · cases mapped
  have plain : nodeKey.IsPlain := ⟨by decide, by decide, by decide, by decide⟩
  have ordinary : (start .standard 0).Every (IsOrdinary nodeType) nodeRun := by
    refine ⟨trivial, plain, ?_, ?_, trivial, trivial, trivial, trivial, trivial, ?_, plain,
      ?_, ?_, trivial, trivial⟩
    all_goals
      rintro current ⟨⟩ resource ⟨⟩
      rfl
  exact ⟨injective, ordinary, loading_borne_out injective .standard 0 ordinary⟩

end System

end ClusterCache
