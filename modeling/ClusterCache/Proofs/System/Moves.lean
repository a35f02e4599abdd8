import ClusterCache.Proofs.Store.Continuation

/-!
# What moves do

A move that lets a call go on does one deed; the other moves concern a stream, a loop, a waiter or
the store as a whole. Facts about a whole run are collected along its moves.
-/

namespace ClusterCache

/-- The move lets a call begin, go on or end. -/
def Move.isCall : Move → Bool
  | .begin _ | .enter _ | .takeLock _ | .answer .. | .giveUp _ => true
  | _ => false

namespace System

/-- The move lets the call begin, or concerns the call after it has begun. -/
def isMoveOf (system : System) (call : CallId) : Move → Bool
  | .begin _ => system.calls.length = call
  | .enter other | .takeLock other | .answer other _ | .giveUp other =>
      other = call && call < system.calls.length
  | _ => false

/-- A call that has begun does not begin again. -/
theorem ne_begin_of_isMoveOf {system : System} {call : CallId} {current : Call}
    (called : system.calls[call]? = some current) {move : Move}
    (own : system.isMoveOf call move = true) (operation : Operation) :
    move ≠ .begin operation := by
  rintro rfl
  have same : system.calls.length = call := by simpa [isMoveOf] using own
  rw [← same, List.getElem?_eq_none (Nat.le_refl _)] at called
  cases called

/-- A move of a call that has begun lets it go on. -/
theorem apply_of_isMoveOf {system : System} {call : CallId} {current : Call}
    (called : system.calls[call]? = some current) {move : Move}
    (own : system.isMoveOf call move = true) :
    (system.apply move).store = (current.next system.store call move).1 ∧
      (system.apply move).calls[call]? =
        some ⟨current.operation, (current.next system.store call move).2⟩ := by
  have used : call < system.calls.length := (List.getElem?_eq_some_iff.1 called).1
  cases move with
  | begin operation => exact absurd rfl (ne_begin_of_isMoveOf called own operation)
  | enter other | takeLock other | answer other answer | giveUp other =>
      have same : other = call := by simp_all [isMoveOf]
      subst same
      simp only [apply, proceed, called]
      exact ⟨rfl, List.getElem?_set_self used⟩
  | _ => cases own

/-- The first move of a call lets it begin. -/
theorem begin_of_isMoveOf {system : System} {call : CallId} {move : Move}
    (unbegun : system.calls[call]? = none) (own : system.isMoveOf call move = true) :
    ∃ operation, move = .begin operation ∧
      (system.apply move).store = (system.store.begin call operation).1 ∧
      (system.apply move).calls[call]? =
        some ⟨operation, (system.store.begin call operation).2⟩ := by
  have unused := List.getElem?_eq_none_iff.1 unbegun
  cases move with
  | begin operation =>
      have same : system.calls.length = call := by simpa [isMoveOf] using own
      subst same
      exact ⟨operation, rfl, rfl, List.getElem?_concat_length⟩
  | enter other | takeLock other | answer other answer | giveUp other =>
      have used : call < system.calls.length := by simp_all [isMoveOf]
      exact absurd used (Nat.not_lt.2 unused)
  | _ => cases own

/-- After a move of a call, the call has begun. -/
theorem called_of_isMoveOf {system : System} {call : CallId} {move : Move}
    (own : system.isMoveOf call move = true) :
    ∃ current, (system.apply move).calls[call]? = some current := by
  cases called : system.calls[call]? with
  | some current => exact ⟨_, (apply_of_isMoveOf called own).2⟩
  | none =>
      obtain ⟨operation, _, _, begun⟩ := begin_of_isMoveOf called own
      exact ⟨_, begun⟩

/-- Other moves leave a call where it is. -/
theorem calls_of_not_isMoveOf {system : System} {call : CallId} {move : Move}
    (foreign : system.isMoveOf call move = false) :
    (system.apply move).calls[call]? = system.calls[call]? := by
  cases move with
  | begin operation =>
      have different : system.calls.length ≠ call := by simpa [isMoveOf] using foreign
      simp only [apply]
      rcases Nat.lt_or_gt_of_ne different with unused | used
      · rw [List.getElem?_eq_none (Nat.le_of_lt unused)]
        refine List.getElem?_eq_none ?_
        rw [List.length_append]
        exact unused
      · exact List.getElem?_append_left used
  | enter other | takeLock other | answer other answer | giveUp other =>
      simp only [apply, proceed]
      split
      · rfl
      · rename_i current called
        have used : other < system.calls.length := (List.getElem?_eq_some_iff.1 called).1
        have different : other ≠ call := by
          intro same
          subst same
          simp [isMoveOf, used] at foreign
        exact List.getElem?_set_ne different
  | _ => rfl

/-- Where a call stands before its move; a call that has not begun is about to arrive. -/
def stood (system : System) (call : CallId) : Stage := (system.stage? call).getD .arriving

theorem stood_of_calls {system : System} {call : CallId} {current : Call}
    (called : system.calls[call]? = some current) :
    system.stood call = current.stage := by
  simp [stood, stage?, called]

/-- Who does not stand at the entrance has begun. -/
theorem called_of_stood {system : System} {call : CallId} {stage : Stage}
    (stands : system.stood call = stage) (begun : stage ≠ .arriving) :
    ∃ operation, system.calls[call]? = some ⟨operation, stage⟩ := by
  cases called : system.calls[call]? with
  | none => simp [stood, stage?, called, Ne.symm begun] at stands
  | some current =>
      rw [stood_of_calls called] at stands
      exact ⟨current.operation, by rw [← stands]⟩

/-- A call keeps its operation. -/
theorem operation_apply {system : System} {call : CallId} {current : Call}
    (called : system.calls[call]? = some current) (move : Move) :
    ∃ stage, (system.apply move).calls[call]? = some ⟨current.operation, stage⟩ := by
  by_cases own : system.isMoveOf call move = true
  · exact ⟨_, (apply_of_isMoveOf called own).2⟩
  · exact ⟨current.stage, (calls_of_not_isMoveOf (by simpa using own)).trans called⟩

theorem operation_eq {system : System} {call : CallId} {earlier current : Call}
    (before : system.calls[call]? = some earlier) {move : Move}
    (after : (system.apply move).calls[call]? = some current) :
    current.operation = earlier.operation := by
  obtain ⟨stage, calledAfter⟩ := operation_apply before move
  rw [after] at calledAfter
  rw [Option.some.inj calledAfter]

theorem operation_run {system : System} {call : CallId} {current : Call}
    (called : system.calls[call]? = some current) (moves : List Move) :
    ∃ stage, (system.run moves).calls[call]? = some ⟨current.operation, stage⟩ := by
  induction moves generalizing system current with
  | nil => exact ⟨current.stage, called⟩
  | cons move rest inductionHypothesis =>
      obtain ⟨stage, calledNext⟩ := operation_apply called move
      obtain ⟨later, calledLater⟩ := inductionHypothesis calledNext
      exact ⟨later, calledLater⟩

/-! ## Collecting along a run -/

/-- What is seen at each move of a run, in order. -/
def collect {α : Type} (see : System → Move → List α) : System → List Move → List α
  | _, [] => []
  | system, move :: moves => see system move ++ collect see (system.apply move) moves

theorem run_append (system : System) (first second : List Move) :
    system.run (first ++ second) = (system.run first).run second :=
  List.foldl_append

theorem run_concat (system : System) (moves : List Move) (move : Move) :
    system.run (moves ++ [move]) = (system.run moves).apply move :=
  run_append system moves [move]

theorem collect_append {α : Type} (see : System → Move → List α) (system : System)
    (first second : List Move) :
    system.collect see (first ++ second) =
      system.collect see first ++ (system.run first).collect see second := by
  induction first generalizing system with
  | nil => rfl
  | cons move rest inductionHypothesis =>
      rw [List.cons_append, collect, collect, inductionHypothesis, run_cons, List.append_assoc]

theorem collect_concat {α : Type} (see : System → Move → List α) (system : System)
    (moves : List Move) (move : Move) :
    system.collect see (moves ++ [move]) =
      system.collect see moves ++ see (system.run moves) move := by
  simp [collect_append, collect]

/-- What was seen along a run was seen at one of its moves. -/
theorem exists_of_mem_collect {α : Type} {see : System → Move → List α} {system : System}
    {moves : List Move} {seen : α} (member : seen ∈ system.collect see moves) :
    ∃ first move rest, moves = first ++ move :: rest ∧ seen ∈ see (system.run first) move := by
  induction moves generalizing system with
  | nil => cases member
  | cons move moves inductionHypothesis =>
      rcases List.mem_append.1 member with now | later
      · exact ⟨[], move, moves, rfl, now⟩
      · obtain ⟨first, next, rest, same, seenThen⟩ := inductionHypothesis later
        exact ⟨move :: first, next, rest, by rw [same]; rfl, seenThen⟩

/-- What follows from what is seen at each move follows along the run. -/
theorem collect_eq_filterMap {α β : Type} {see : System → Move → List α}
    {other : System → Move → List β} {follow : α → Option β} {system : System} {moves : List Move}
    (each : ∀ first move rest, moves = first ++ move :: rest →
      other (system.run first) move = (see (system.run first) move).filterMap follow) :
    system.collect other moves = (system.collect see moves).filterMap follow := by
  induction moves generalizing system with
  | nil => rfl
  | cons move moves inductionHypothesis =>
      have now : other system move = (see system move).filterMap follow := each [] move moves rfl
      have later := inductionHypothesis fun first next rest same =>
        each (move :: first) next rest (by rw [same]; rfl)
      rw [collect, collect, List.filterMap_append, now, later]

/-- If nothing is seen at any move, nothing is seen along the run. -/
theorem collect_eq_nil {α : Type} {see : System → Move → List α} {system : System}
    {moves : List Move}
    (each : ∀ first move rest, moves = first ++ move :: rest → see (system.run first) move = []) :
    system.collect see moves = [] := by
  refine List.eq_nil_iff_forall_not_mem.2 fun seen member => ?_
  obtain ⟨first, move, rest, same, seenThen⟩ := exists_of_mem_collect member
  rw [each first move rest same] at seenThen
  cases seenThen

/-! ## Deeds of moves -/

/-- What a call does by a move. -/
def deed (system : System) (move : Move) : Deed :=
  match move with
  | .begin operation => operation.beginDeed system.store system.calls.length
  | .enter call | .takeLock call | .answer call _ | .giveUp call =>
      match system.calls[call]? with
      | some current => current.deed system.store call move
      | none => .nothing
  | _ => .nothing

/-- A move of a call changes what the store holds by the deed of the move. -/
theorem holdings_apply {system : System} {move : Move} (isCall : move.isCall = true) :
    (system.apply move).store.holdings = (system.store.perform (system.deed move)).holdings := by
  cases move with
  | begin operation => exact Store.holdings_begin system.store _ operation
  | enter call =>
      simp only [apply, proceed, deed]
      cases system.calls[call]? with
      | none => rfl
      | some current => exact Call.holdings_next system.store call current (.enter call)
  | takeLock call =>
      simp only [apply, proceed, deed]
      cases system.calls[call]? with
      | none => rfl
      | some current => exact Call.holdings_next system.store call current (.takeLock call)
  | answer call answer =>
      simp only [apply, proceed, deed]
      cases system.calls[call]? with
      | none => rfl
      | some current => exact Call.holdings_next system.store call current (.answer call answer)
  | giveUp call =>
      simp only [apply, proceed, deed]
      cases system.calls[call]? with
      | none => rfl
      | some current => exact Call.holdings_next system.store call current (.giveUp call)
  | _ => cases isCall

theorem informers_apply {system : System} {move : Move} (isCall : move.isCall = true) :
    (system.apply move).store.informers =
      (system.store.perform (system.deed move)).informers :=
  congrArg Holdings.informers (holdings_apply isCall)

/-! ## What no move undoes -/

/-- Apart from a turn that takes an item in, no move touches a replica, brings a removed
registration back or lets a stopped informer go on. -/
theorem continues_apply {system : System} {move : Move}
    (noItem : ∀ id, move = .turn id → system.store.next? id = none) :
    system.store.informers.Continues (system.apply move).store.informers := by
  by_cases isCall : move.isCall = true
  · rw [informers_apply isCall]
    exact Store.continues_perform system.store _
  · cases move with
    | send informer item => exact Informers.continues_send system.store.informers informer item
    | endStream informer =>
        exact Informers.continues_modify system.store.informers informer rfl rfl rfl
          (Handlers.Continues.refl _)
    | turn informer => exact Store.continues_turn_of_none (noItem informer rfl)
    | wake waiter =>
        simp only [apply, modify]
        split
        · rw [Store.informers_wake]
          exact Informers.Continues.refl _
        · exact Informers.Continues.refl _
    | shutdown => exact Informers.continues_shutdown system.store.informers
    | onUpdate callback => exact Informers.Continues.refl _
    | presetDecision access allowed => exact Informers.Continues.refl _
    | forgetDecisions => exact Informers.Continues.refl _
    | changeAccessClient client => exact Informers.Continues.refl _
    | begin operation | enter call | takeLock call | answer call answer | giveUp call =>
        exact absurd rfl isCall

/-- No move brings a removed registration back or lets a stopped informer go on. -/
theorem persists_apply (system : System) (move : Move) :
    system.store.informers.Persists (system.apply move).store.informers := by
  by_cases isTurn : ∃ id, move = .turn id
  · obtain ⟨id, rfl⟩ := isTurn
    exact Store.persists_turn system.store id
  · exact (continues_apply fun id same => absurd ⟨id, same⟩ isTurn).toPersists

theorem persists_run (system : System) (moves : List Move) :
    system.store.informers.Persists (system.run moves).store.informers := by
  induction moves generalizing system with
  | nil => exact Informers.Persists.refl _
  | cons move rest inductionHypothesis =>
      exact (persists_apply system move).trans (inductionHypothesis _)

/-- At every moment the informers number their registrations under their own numbers. -/
theorem numbered_run (config : StoreConfig) (client : ClientId) (moves : List Move) :
    ((start config client).run moves).store.informers.Numbered :=
  (persists_run (start config client) moves).numbered
    (Informers.numbered_empty client config.ns)

end System

end ClusterCache
