import ClusterCache.Proofs.Store.Connections
import ClusterCache.Proofs.System.Requests
import ClusterCache.Proofs.System.Reset

/-!
# Which connection an operation asks on

A change of connection passes the gate alone, so nobody who passes the gate shared is inside while
the connections change. Main statement: at every moment the store maps, reviews, reads, writes and
opens streams on one and the same connection, and everything that an operation asks from when it
enters the gate until it leaves goes to the connection that was in use when it entered.
-/

namespace ClusterCache.System

variable {system : System} {call : CallId} {move : Move} {client : ClientId} {request : Request}

/-! ## Moves -/

/-- A move of no call changes neither connections nor streams, unless reviews are diverted from
outside. -/
theorem keepsStreams_of_foreign (foreign : ∀ call, system.isMoveOf call move = false)
    (inner : ∀ client, move ≠ .changeAccessClient client) :
    system.store.KeepsStreams (system.apply move).store := by
  rcases idle_of_foreign foreign with noCall | same
  · cases move with
    | turn id => exact Store.keepsStreams_turn system.store id
    | wake waiter =>
        simp only [apply, modify]
        split
        · exact Store.keepsStreams_wake system.store _
        · exact Store.KeepsStreams.refl system.store
    | send informer item => exact Store.keepsStreams_modify system.store informer _
    | endStream informer => exact Store.keepsStreams_modify system.store informer _
    | changeAccessClient client => exact absurd rfl (inner client)
    | begin operation | enter call | takeLock call | answer call answer | giveUp call =>
        cases noCall
    | _ => exact ⟨rfl, rfl⟩
  · rw [same]
    exact Store.KeepsStreams.refl system.store

/-- No move makes an informer read another stream; a new one reads on the connection in use. -/
theorem opens_apply (system : System) (move : Move) :
    system.store.informers.Opens (system.apply move).store.informers := by
  by_cases isCall : move.isCall = true
  · rw [informers_apply isCall]
    exact Store.opens_perform system.store _
  · by_cases diverts : ∃ client, move = .changeAccessClient client
    · obtain ⟨client, rfl⟩ := diverts
      exact Informers.opens_of_sources rfl
    · have foreign : ∀ call, system.isMoveOf call move = false := by
        intro call
        cases move <;> first | rfl | exact absurd rfl isCall
      have keeps := keepsStreams_of_foreign foreign fun client same => diverts ⟨client, same⟩
      exact Informers.opens_of_sources keeps.sources

/-- An informer reads the stream that it was started on for good. -/
theorem source?_run (system : System) (moves : List Move) {id : InformerId}
    (used : id < system.store.informers.started.length) :
    (system.run moves).store.informers.source? id = system.store.informers.source? id := by
  induction moves generalizing system with
  | nil => rfl
  | cons move rest inductionHypothesis =>
      have stillUsed := Nat.lt_of_lt_of_le used (persists_apply system move).started
      rw [run_cons, inductionHypothesis _ stillUsed]
      exact (opens_apply system move).source? used

/-- By its own moves a call leaves the connections as they are, unless it is a change of connection
that returns. -/
theorem connections_apply (own : system.isMoveOf call move = true) :
    (system.apply move).store.connections = system.store.connections ∨
      ∃ client gate, system.Returns move call (.changeClient client) (.ok .done) ∧
        (system.apply move).store = { system.store.changeClient client with gate } := by
  obtain ⟨⟨operation, next⟩, called, goes⟩ := goes_apply own
  generalize stands : system.stood call = stage at goes
  cases goes with
  | stays same _ | asks same _ _ | queues same _ _ _ | drops same _ | ends same _ _ _ _ _
  | serves same _ _ _ _ _ _ _ _ _ => exact Or.inl same
  | swaps client isChange entering gate changed =>
      subst isChange
      refine Or.inr ⟨client, gate, ⟨called, ?_⟩, changed⟩
      intro finished
      rw [stood_of_calls finished, entering] at stands
      cases stands

/-! ## One connection at a time -/

/-- The store uses one connection, and whoever passes the gate shared and waits for an answer waits
for it on this connection. -/
structure Aligned (system : System) : Prop where
  access : system.store.access.client = system.store.client
  informers : system.store.informers.client = system.store.client
  asking : ∀ {call : CallId} {operation : Operation} {client : ClientId} {request : Request}
    {purpose : Purpose}, system.calls[call]? = some ⟨operation, .asking client request purpose⟩ →
    operation.passage? = some .shared → client = system.store.client

theorem aligned_start (config : StoreConfig) (client : ClientId) :
    (start config client).Aligned where
  access := rfl
  informers := rfl
  asking called := by cases called

theorem Aligned.connections (aligned : system.Aligned) :
    system.store.connections = ⟨system.store.client, system.store.client, system.store.client⟩ := by
  unfold Store.connections
  rw [aligned.access, aligned.informers]

/-- Whoever passes the gate shared asks on the connection in use. -/
theorem Aligned.client_of_asks (aligned : system.Aligned) {current : Call} {purpose : Purpose}
    (called : (system.apply move).calls[call]? = some current)
    (shared : current.operation.passage? = some .shared)
    (asks : system.store.Asks call current.operation move (system.stood call) client request
      purpose) : client = system.store.client := by
  have before : ∀ {other request purpose}, system.stood call = .asking other request purpose →
      other = system.store.client := by
    intro other request purpose stands
    obtain ⟨operation, asking⟩ := called_of_stood stands nofun
    rw [operation_eq asking called] at shared
    exact aligned.asking asking shared
  generalize system.stood call = stage at asks before
  cases asks with
  | locates key verb demand => exact aligned.access
  | reviews _ access flight => exact aligned.access
  | maps | forgets | deletes | reads => rfl
  | forgetsNext | replaces => exact before rfl

theorem Admitted.aligned_apply (admitted : system.Admitted) (aligned : system.Aligned)
    (inner : ∀ client, move ≠ .changeAccessClient client) : (system.apply move).Aligned := by
  by_cases own : ∃ mover, system.isMoveOf mover move = true
  · obtain ⟨mover, own⟩ := own
    rcases connections_apply own with same | ⟨client, gate, returns, changed⟩
    · have sameClient : (system.apply move).store.client = system.store.client :=
        congrArg Connections.client same
      constructor
      case access =>
        rw [sameClient, ← aligned.access]
        exact congrArg Connections.access same
      case informers =>
        rw [sameClient, ← aligned.informers]
        exact congrArg Connections.informers same
      case asking =>
        intro call operation client request purpose called shared
        rw [sameClient]
        by_cases isMover : call = mover
        · subst isMover
          obtain ⟨current, calledAfter, goes⟩ := goes_apply own
          rw [called] at calledAfter
          cases calledAfter
          generalize stands : system.stood call = stage at goes
          cases goes with
          | stays _ _ =>
              obtain ⟨earlier, before⟩ := called_of_stood stands nofun
              have same : operation = earlier := operation_eq before called
              exact aligned.asking before (same ▸ shared)
          | asks _ asks _ =>
              rw [← stands] at asks
              exact aligned.client_of_asks called shared asks
        · have foreign : system.isMoveOf call move = false := by
            by_contra moves
            exact isMover (isMoveOf_unique (by simpa using moves) own)
          rw [calls_of_not_isMoveOf foreign] at called
          exact aligned.asking called shared
    · constructor
      case access => rw [changed]; rfl
      case informers => rw [changed]; rfl
      case asking =>
        -- Nobody who passes the gate shared is under way when the change returns.
        intro call operation client request purpose called shared
        have gated : operation.passage? ≠ none := by simp [shared]
        have idle := admitted.idle_of_returns rfl returns called gated
        cases idle
  · have foreign : ∀ call, system.isMoveOf call move = false := by simpa using own
    have keeps := keepsStreams_of_foreign foreign inner
    have sameClient : (system.apply move).store.client = system.store.client :=
      congrArg Connections.client keeps.connections
    constructor
    case access =>
      rw [sameClient, ← aligned.access]
      exact congrArg Connections.access keeps.connections
    case informers =>
      rw [sameClient, ← aligned.informers]
      exact congrArg Connections.informers keeps.connections
    case asking =>
      intro call operation client request purpose called shared
      rw [calls_of_foreign foreign] at called
      rw [sameClient]
      exact aligned.asking called shared

theorem aligned_run (config : StoreConfig) (client : ClientId) (moves : List Move)
    (inner : ∀ other, .changeAccessClient other ∉ moves) :
    ((start config client).run moves).Aligned := by
  induction moves using List.reverseRecOn with
  | nil => exact aligned_start config client
  | append_singleton moves move inductionHypothesis =>
      rw [run_concat]
      have admitted := (admitted_start config client).run moves
      refine admitted.aligned_apply (inductionHypothesis ?_) ?_
      · exact fun other member => inner other (List.mem_append_left _ member)
      · rintro other rfl
        exact inner other (List.mem_append_right _ (List.mem_singleton.2 rfl))

/-! ## Inside the gate -/

/-- Whoever is inside the gate, or waits for it, has not ended. -/
def Present (system : System) : Prop :=
  ∀ (call : CallId) (passage : Passage) (current : Call),
    system.store.gate.Has (call, passage) → system.calls[call]? = some current →
      current.stage.isPending = true

theorem SendsOn.isPending (sends : system.SendsOn move call client request) :
    (system.stood call).isPending = true := by
  obtain ⟨own, noted, journal, member⟩ := sends
  by_contra ended
  obtain ⟨current, _, stored, _⟩ := apply_of_ended (by simpa using ended) own
  rw [stored] at journal
  have nothing : noted = [] := List.append_cancel_right journal.symm
  rw [nothing] at member
  cases member

theorem Present.apply (present : system.Present) (move : Move) : (system.apply move).Present := by
  intro call passage current has called
  by_cases own : system.isMoveOf call move = true
  · by_cases pending : (system.stood call).isPending = true
    · obtain ⟨moved, calledAfter, stays⟩ := staysInside_apply own pending
      rw [called] at calledAfter
      cases calledAfter
      unfold Store.StaysInside at stays
      by_contra ended
      rw [if_neg ended] at stays
      rw [stays] at has
      exact Gate.ne_of_has_leave has rfl
    · obtain ⟨earlier, before, stored, _⟩ := apply_of_ended (by simpa using pending) own
      rw [stood_of_calls before] at pending
      rw [stored] at has
      exact absurd (present _ _ _ has before) pending
  · have foreign : system.isMoveOf call move = false := by simpa using own
    rw [calls_of_not_isMoveOf foreign] at called
    have arrived : (system.arrived move).Has (call, passage) := by
      by_cases someone : ∃ mover, system.isMoveOf mover move = true
      · obtain ⟨mover, moves⟩ := someone
        obtain ⟨moved, _, stays | ⟨left, _⟩⟩ := gate_apply moves
        · rwa [stays] at has
        · rw [left] at has
          exact Gate.has_of_leave has
      · rw [gate_of_foreign (by simpa using someone)] at has
        cases move with
        | begin operation => simp [isMoveOf] at someone
        | _ => exact has
    rcases has_of_arrived arrived with before | ⟨operation, rfl, _, isNew⟩
    · exact present _ _ _ before called
    · simp only at isNew
      simp [isMoveOf, isNew] at foreign

theorem present_run (config : StoreConfig) (client : ClientId) (moves : List Move) :
    ((start config client).run moves).Present := by
  induction moves using List.reverseRecOn with
  | nil =>
      intro call passage current has called
      cases called
  | append_singleton moves move inductionHypothesis =>
      rw [run_concat]
      exact inductionHypothesis.apply move

/-! ## The connection of a call -/

/-- All that the call asked during the moves, it asked on the connection, and whenever it was inside
the gate, the store used this connection for everything. -/
structure Uses (system : System) (moves : List Move) (call : CallId) (client : ClientId) :
    Prop where
  requests : ∀ {first own rest other request}, moves = first ++ own :: rest →
    (system.run first).SendsOn own call other request → other = client
  inUse : ∀ {first rest}, moves = first ++ rest →
    (system.run first).store.gate.isInside call = true →
    (system.run first).store.connections = ⟨client, client, client⟩

theorem Uses.concat {moves : List Move} (uses : system.Uses moves call client)
    (requests : ∀ {other request},
      (system.run moves).SendsOn move call other request → other = client)
    (inUse : ((system.run moves).apply move).store.gate.isInside call = true →
      ((system.run moves).apply move).store.connections = ⟨client, client, client⟩) :
    system.Uses (moves ++ [move]) call client := by
  constructor
  case requests =>
    intro first own rest other request split sends
    rcases List.eq_nil_or_concat rest with rfl | ⟨earlier, last, rfl⟩
    · obtain ⟨rfl, same⟩ := List.append_inj' split rfl
      cases same
      exact requests sends
    · rw [List.concat_eq_append, ← List.cons_append, ← List.append_assoc] at split
      exact uses.requests (List.append_inj' split rfl).1 sends
  case inUse =>
    intro first rest split isIn
    rcases List.eq_nil_or_concat rest with rfl | ⟨earlier, last, rfl⟩
    · rw [List.append_nil] at split
      rw [← split, run_concat] at isIn ⊢
      exact inUse isIn
    · rw [List.concat_eq_append, ← List.append_assoc] at split
      exact uses.inUse (List.append_inj' split rfl).1 isIn

section Inside

variable (admitted : system.Admitted)

include admitted

/-- While a call that passes the gate shared is inside, nobody changes the connections. -/
theorem Admitted.connections_of_inside {current : Call}
    (called : (system.apply move).calls[call]? = some current)
    (shared : current.operation.passage? = some .shared)
    (isIn : system.store.gate.isInside call = true)
    (inner : ∀ client, move ≠ .changeAccessClient client) :
    (system.apply move).store.connections = system.store.connections := by
  by_cases own : ∃ mover, system.isMoveOf mover move = true
  · obtain ⟨mover, own⟩ := own
    rcases connections_apply own with same | ⟨client, gate, returns, _⟩
    · exact same
    · obtain ⟨passage, member⟩ := Gate.isInside_iff.1 isIn
      have stillIn := mem_inside_arrived member move
      rw [admitted.inside_of_returns rfl returns] at stillIn
      have isMover : call = mover := congrArg Prod.fst (List.mem_singleton.1 stillIn)
      rw [isMover, returns.1] at called
      cases called
      cases shared
  · exact (keepsStreams_of_foreign (by simpa using own) inner).connections

/-- Whoever is inside stays inside, or has ended. -/
theorem Admitted.isInside_or_ended (present : system.Present) {current : Call}
    (called : (system.apply move).calls[call]? = some current)
    (isIn : system.store.gate.isInside call = true) :
    (system.apply move).store.gate.isInside call = true ∨ current.stage.isPending = false := by
  obtain ⟨passage, member⟩ := Gate.isInside_iff.1 isIn
  have arrived := mem_inside_arrived member move
  by_cases own : system.isMoveOf call move = true
  · obtain ⟨known, before, _⟩ := admitted.known (Or.inl member)
    have pending : (system.stood call).isPending = true := by
      rw [stood_of_calls before]
      exact present _ _ _ (Or.inl member) before
    obtain ⟨moved, calledAfter, stays⟩ := staysInside_apply own pending
    rw [called] at calledAfter
    cases calledAfter
    unfold Store.StaysInside at stays
    split at stays
    · simp only at stays
      rw [stays]
      exact Or.inl (Gate.isInside_iff.2 ⟨passage, arrived⟩)
    · rename_i ended
      exact Or.inr (by simpa using ended)
  · refine Or.inl (Gate.isInside_iff.2 ⟨passage, ?_⟩)
    by_cases someone : ∃ mover, system.isMoveOf mover move = true
    · obtain ⟨mover, moves⟩ := someone
      obtain ⟨moved, _, stays | ⟨left, _⟩⟩ := gate_apply moves
      · rwa [stays]
      · rw [left]
        refine Gate.mem_inside_leave arrived ?_
        rintro rfl
        exact own moves
    · rw [gate_of_foreign (by simpa using someone)]
      exact member

end Inside

/-- Whoever passes the gate shared sends its requests on the connection in use. -/
theorem Aligned.client_of_sendsOn (aligned : system.Aligned)
    (shared : ∀ current, (system.apply move).calls[call]? = some current →
      current.operation.passage? = some .shared)
    (sends : system.SendsOn move call client request) : client = system.store.client := by
  obtain ⟨current, called, ⟨purpose, _, asks⟩ | ⟨resource, onInformers, _, _⟩⟩ :=
    sends.asks_or_watches
  · exact aligned.client_of_asks called (shared current called) asks
  · rw [onInformers]
    exact aligned.informers

/-- Whoever has sent a request by a move is inside the gate after it, or has ended. -/
theorem Admitted.isInside_or_ended_of_sendsOn (admitted : (system.apply move).Admitted)
    (shared : ∀ current, (system.apply move).calls[call]? = some current →
      current.operation.passage? = some .shared)
    (sends : system.SendsOn move call client request) :
    (system.apply move).store.gate.isInside call = true ∨
      ∃ current, (system.apply move).calls[call]? = some current ∧
        current.stage.isPending = false := by
  obtain ⟨current, called, ⟨purpose, asking, _⟩ | ⟨_, _, _, ended⟩⟩ := sends.asks_or_watches
  · have underWay : current.stage.isUnderWay = true := by rw [asking]; rfl
    have member := admitted.inside called (shared current called) underWay
    exact Or.inl (Gate.isInside_iff.2 ⟨_, member⟩)
  · exact Or.inr ⟨current, called, ended⟩

/-- Until it enters the gate a call asks nothing; from then on it uses one connection. -/
theorem uses_run (config : StoreConfig) (first : ClientId) (moves : List Move)
    (inner : ∀ client, .changeAccessClient client ∉ moves) (call : CallId)
    (shared : ∀ current, ((start config first).run moves).calls[call]? = some current →
      current.operation.passage? = some .shared) :
    (∀ client, (start config first).Uses moves call client) ∨
      ∃ client, (start config first).Uses moves call client ∧
        (((start config first).run moves).store.gate.isInside call = true ∨
          ∃ current, ((start config first).run moves).calls[call]? = some current ∧
            current.stage.isPending = false) := by
  induction moves using List.reverseRecOn with
  | nil =>
      refine Or.inl fun client => ⟨?_, ?_⟩
      · intro first own rest other request split
        simp at split
      · intro first rest split isIn
        obtain ⟨rfl, rfl⟩ := List.append_eq_nil_iff.1 split.symm
        cases isIn
  | append_singleton moves move inductionHypothesis =>
      have innerBefore : ∀ client, .changeAccessClient client ∉ moves :=
        fun client member => inner client (List.mem_append_left _ member)
      have innerMove : ∀ client, move ≠ .changeAccessClient client := by
        rintro client rfl
        exact inner client (List.mem_append_right _ (List.mem_singleton.2 rfl))
      have admitted := (admitted_start config first).run moves
      have aligned := aligned_run config first moves innerBefore
      have alignedAfter := admitted.aligned_apply aligned innerMove
      rw [run_concat] at shared ⊢
      have sharedBefore : ∀ current, ((start config first).run moves).calls[call]? = some current →
          current.operation.passage? = some .shared := by
        intro current called
        obtain ⟨stage, calledAfter⟩ := operation_apply called move
        have passes := shared _ calledAfter
        exact passes
      rcases inductionHypothesis innerBefore sharedBefore with
        outside | ⟨client, uses, isIn | ⟨current, called, ended⟩⟩
      · by_cases asks : ∃ client request,
            ((start config first).run moves).SendsOn move call client request
        · -- The first request goes to the connection in use, and the call has entered.
          obtain ⟨client, request, sends⟩ := asks
          refine Or.inr ⟨_, (outside _).concat (aligned.client_of_sendsOn shared) ?_,
            (admitted.apply move).isInside_or_ended_of_sendsOn shared sends⟩
          intro isIn
          rw [← aligned.connections]
          rcases connections_apply sends.1 with same | ⟨other, gate, returns, _⟩
          · exact same
          · cases shared _ returns.1
        · by_cases isIn :
              (((start config first).run moves).apply move).store.gate.isInside call = true
          · refine Or.inr ⟨_, (outside _).concat ?_ fun _ => alignedAfter.connections, Or.inl isIn⟩
            exact fun sends => absurd ⟨_, _, sends⟩ asks
          · refine Or.inl fun client => (outside client).concat ?_ fun entered =>
              absurd entered isIn
            exact fun sends => absurd ⟨_, _, sends⟩ asks
      · obtain ⟨passage, member⟩ := Gate.isInside_iff.1 isIn
        obtain ⟨known, before, _⟩ := admitted.known (Or.inl member)
        obtain ⟨stage, called⟩ := operation_apply before move
        have same := admitted.connections_of_inside called (shared _ called) isIn innerMove
        have now : ((start config first).run moves).store.connections = ⟨client, client, client⟩ :=
          uses.inUse (List.append_nil moves).symm isIn
        refine Or.inr ⟨client, uses.concat ?_ fun _ => same.trans now, ?_⟩
        · intro other request sends
          rw [aligned.client_of_sendsOn shared sends]
          exact congrArg Connections.client now
        · rcases admitted.isInside_or_ended (present_run config first moves) called isIn with
            stays | ended
          · exact Or.inl stays
          · exact Or.inr ⟨_, called, ended⟩
      · have calledAfter : (((start config first).run moves).apply move).calls[call]? =
            some current := by
          by_cases own : ((start config first).run moves).isMoveOf call move = true
          · have stands : (((start config first).run moves).stood call).isPending = false := by
              rw [stood_of_calls called]
              exact ended
            obtain ⟨known, before, _, calledAfter⟩ := apply_of_ended stands own
            rw [called] at before
            cases before
            exact calledAfter
          · rw [calls_of_not_isMoveOf (by simpa using own)]
            exact called
        refine Or.inr ⟨client, uses.concat ?_ ?_, Or.inr ⟨current, calledAfter, ended⟩⟩
        · intro other request sends
          have pending := sends.isPending
          rw [stood_of_calls called, ended] at pending
          cases pending
        · intro isIn
          obtain ⟨passage, member⟩ := Gate.isInside_iff.1 isIn
          have pending := (present_run config first moves).apply move _ _ _ (Or.inl member)
            calledAfter
          rw [ended] at pending
          cases pending

/-! ## Changing the connection -/

/-- By a move of its own a change of connection changes nothing but the gate and, if it returns, the
connections. -/
theorem Admitted.changes_of_isMoveOf (admitted : system.Admitted)
    (own : system.isMoveOf call move = true) {stage : Stage}
    (called : (system.apply move).calls[call]? = some ⟨.changeClient client, stage⟩) :
    ∃ gate, (system.apply move).store = { system.store with gate } ∨
      (system.apply move).store =
        { system.store with
          client, access.client := client, informers.client := client, gate } := by
  cases before : system.calls[call]? with
  | some earlier =>
      obtain ⟨stored, _⟩ := apply_of_isMoveOf before own
      obtain ⟨operation, stood⟩ := earlier
      obtain rfl : .changeClient client = operation := operation_eq before called
      have idle := admitted.brief before rfl
      rw [stored]
      cases stood with
      | arriving =>
          cases move with
          | enter other =>
              simp only [Call.next]
              split
              · exact ⟨_, Or.inr rfl⟩
              · exact ⟨_, Or.inl rfl⟩
          | _ => exact ⟨_, Or.inl rfl⟩
      | queuing access flight | asking asked request purpose => cases idle
      | finished result | dropped =>
          rw [Call.next_of_not_isPending system.store call rfl]
          exact ⟨_, Or.inl rfl⟩
  | none =>
      obtain ⟨operation, rfl, stored, calledAfter⟩ := begin_of_isMoveOf before own
      rw [called] at calledAfter
      obtain rfl : .changeClient client = operation :=
        congrArg Call.operation (Option.some.inj calledAfter)
      rw [stored]
      simp only [Store.begin, Operation.passage?]
      split
      · exact ⟨_, Or.inr rfl⟩
      · exact ⟨_, Or.inl rfl⟩

/-! ## All runs -/

/-- What holds of connections along a run. -/
structure Undivided (system : System) (moves : List Move) : Prop where
  /-- The store maps, reviews, reads, writes and opens streams on one connection. -/
  single : ∀ first rest, moves = first ++ rest → ∃ client,
    (system.run first).store.connections = ⟨client, client, client⟩
  /-- An operation asks on the one connection that is in use while it is inside the gate. -/
  uses : ∀ call current, (system.run moves).calls[call]? = some current →
    current.operation.passage? = some .shared → ∃ client, system.Uses moves call client
  /-- A change of connection changes nothing else. -/
  changes : ∀ first own rest call client stage, moves = first ++ own :: rest →
    (system.run first).isMoveOf call own = true →
    (system.run (first ++ [own])).calls[call]? = some ⟨.changeClient client, stage⟩ →
    ∃ gate, (system.run (first ++ [own])).store = { (system.run first).store with gate } ∨
      (system.run (first ++ [own])).store =
        { (system.run first).store with
          client, access.client := client, informers.client := client, gate }
  /-- An informer goes on to read the stream that it was started on. -/
  streams : ∀ first rest id, moves = first ++ rest →
    id < (system.run first).store.informers.started.length →
    (system.run moves).store.informers.source? id =
      (system.run first).store.informers.source? id
  /-- It was started on the connection in use. -/
  opened : ∀ first own rest id source, moves = first ++ own :: rest →
    (system.run first).store.informers.started.length ≤ id →
    (system.run (first ++ [own])).store.informers.source? id = some source →
    source.client = (system.run first).store.client

/-- No operation mixes two connections, however often the connection is changed meanwhile. -/
theorem operations_undivided (config : StoreConfig) (first : ClientId) (moves : List Move)
    (inner : ∀ client, .changeAccessClient client ∉ moves) :
    Undivided (start config first) moves := by
  have aligned : ∀ earlier later, moves = earlier ++ later →
      ((start config first).run earlier).Aligned := by
    intro earlier later split
    refine aligned_run config first earlier fun client member => inner client ?_
    rw [split]
    exact List.mem_append_left _ member
  constructor
  case single => exact fun earlier later split => ⟨_, (aligned earlier later split).connections⟩
  case uses =>
    intro call current called shared
    have passes : ∀ other, ((start config first).run moves).calls[call]? = some other →
        other.operation.passage? = some .shared := by
      intro other calledSame
      rw [called] at calledSame
      rwa [← Option.some.inj calledSame]
    rcases uses_run config first moves inner call passes with all | ⟨client, uses, _⟩
    · exact ⟨first, all first⟩
    · exact ⟨client, uses⟩
  case changes =>
    intro earlier own later call client stage split isOwn called
    rw [run_concat] at called ⊢
    exact ((admitted_start config first).run earlier).changes_of_isMoveOf isOwn called
  case streams =>
    intro earlier later id split used
    rw [split, run_append]
    exact source?_run _ later used
  case opened =>
    intro earlier own later id source split isNew reads
    rw [run_concat] at reads
    rw [(opens_apply _ own).client_of_new isNew reads]
    exact (aligned earlier (own :: later) split).informers

/-! Secrets are listed while a change to another connection waits, then listed again. -/

def secretKey : Key := .ofScope "vault" "v1" "Secret"

def secretAnswer : Answer := .resource (.ok (.served "" "v1" "Secret" "secrets"))

def secretRun : List Move :=
  [.begin (.list secretKey), .begin (.changeClient 1), .answer 0 secretAnswer,
    .answer 0 (.review (.ok true)), .answer 0 secretAnswer, .enter 1, .begin (.list secretKey),
    .answer 2 secretAnswer]

theorem operations_undivided_secrets :
    let system := (start .standard 0).run secretRun
    (∀ client, .changeAccessClient client ∉ secretRun) ∧
      Undivided (start .standard 0) secretRun ∧
      system.store.connections = ⟨1, 1, 1⟩ ∧
      system.store.access.decisions.get? ⟨"vault", "", "secrets", "list"⟩ = some true ∧
      system.store.informers.source? 0 = some ⟨0, "secrets", none⟩ ∧
      system.stage? 2 = some (.asking 1 (.resource secretKey.groupVersionKind) .map) := by
  have inner : ∀ client, .changeAccessClient client ∉ secretRun := by
    intro client member
    simp [secretRun] at member
  exact ⟨inner, operations_undivided .standard 0 secretRun inner, rfl, rfl, rfl, rfl⟩

end ClusterCache.System
