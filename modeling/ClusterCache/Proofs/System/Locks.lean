import ClusterCache.Proofs.Flights.Line
import ClusterCache.Proofs.System.Passage
import ClusterCache.Proofs.Table.Keys
import Mathlib.Data.List.Induction

/-!
# Who stands at which lock

A call that waits for a review, or has one in flight, stands in line at the lock of its key, and
nobody else does. So where nobody can go on by himself, whoever waits at a lock waits for a review
in flight. As long as no call is given up, every lock on the register belongs to a review in
flight.
-/

namespace ClusterCache

/-- How a call that moves from one standing to another moves in the lines. -/
inductive Flights.Steps (call : CallId) (before after : Flights) : Standing → Standing → Prop
  | stays {first last : Standing} (place : last.place? = first.place?) (same : after = before) :
      Steps call before after first last
  | joins {last : Standing} (key : AccessKey)
      (place : last.place? = some (key, (before.join key call).2))
      (joined : after = (before.join key call).1) : Steps call before after .away last
  | leaves {first : Standing} (key : AccessKey) (flight : FlightId)
      (place : first.place? = some (key, flight)) (struck : Flights)
      (strikes : struck = before ∨ struck = before.strike key flight)
      (left : after = struck.leave flight call) : Steps call before after first .away

theorem Store.Passes.steps {call : CallId} {operation : Operation} {move : Move}
    {before after : Store} {first last : Standing}
    (passes : Passes call operation move before after first last) :
    Flights.Steps call before.access.flights after.access.flights first last := by
  cases passes with
  | stays standing access | asks key flight undecided holds access =>
      exact .stays rfl (by rw [access])
  | forgets isReset access | reconnects client access => exact .stays rfl (by rw [access])
  | joins key undecided access | asksAtOnce key undecided holds access =>
      exact .joins key rfl (by rw [access])
  | reads key flight access => exact .leaves key flight rfl _ (Or.inl rfl) (by rw [access])
  | decides key flight allowed answered access | fails key flight error answered access =>
      exact .leaves key flight rfl _ (Or.inr rfl) (by rw [access])
  | leaves standing flight atLock access =>
      have place : ∃ key, first.place? = some (key, flight) := by
        cases first with
        | away => cases atLock
        | waiting key lock | reviewing key lock =>
            cases atLock
            exact ⟨key, rfl⟩
      obtain ⟨key, place⟩ := place
      exact .leaves key flight place _ (Or.inl rfl) (by rw [access])

namespace Flights

variable {flights : Flights} {id : FlightId} {call : CallId}

theorem exists_access?_of_mem_line (member : call ∈ flights.line id) :
    ∃ access, flights.access? id = some access := by
  unfold line at member
  cases found : flights.locks[id]? with
  | none => simp [found] at member
  | some flight => exact ⟨flight.access, access?_of_getElem? found⟩

theorem line_of_locks {other : Flights} (same : other.locks = flights.locks) :
    other.line id = flights.line id := by
  unfold line
  rw [same]

theorem access?_of_locks {other : Flights} (same : other.locks = flights.locks) :
    other.access? id = flights.access? id := by
  unfold access?
  rw [same]

/-- Whoever joins where nobody has joined before holds the lock. -/
theorem isHolder_join_of_none {access : AccessKey}
    (unregistered : flights.register.get? access = none) (call : CallId) :
    (flights.join access call).1.isHolder (flights.join access call).2 call = true := by
  simp [Flights.join, unregistered, isHolder]

end Flights

namespace System

variable {system : System} {call : CallId} {move : Move} {key : AccessKey} {flight : FlightId}

/-! ## Lines -/

/-- Exactly the calls that wait for a review, or have one in flight, stand in line, each at a lock
of its key. -/
structure Orderly (system : System) : Prop where
  lined : system.store.access.flights.Lined
  inLine : ∀ {call access id}, (system.standing call).place? = some (access, id) ↔
    call ∈ system.store.access.flights.line id ∧
      system.store.access.flights.access? id = some access

theorem orderly_start (config : StoreConfig) (client : ClientId) :
    (start config client).Orderly where
  lined := Flights.lined_empty
  inLine := by
    intro call access id
    have nowhere : (start config client).standing call = .away := rfl
    have nobody : (start config client).store.access.flights.line id = [] := rfl
    rw [nowhere, nobody]
    simp [Standing.place?]

/-- A call that is away stands in no line. -/
theorem Orderly.not_mem_line (orderly : system.Orderly) (away : system.standing call = .away)
    (id : FlightId) : call ∉ system.store.access.flights.line id := by
  intro member
  obtain ⟨access, isFor⟩ := Flights.exists_access?_of_mem_line member
  have place := orderly.inLine.2 ⟨member, isFor⟩
  rw [away] at place
  cases place

section Apply

variable {mover : CallId} (orderly : system.Orderly)
  (others : ∀ {call}, call ≠ mover → (system.apply move).standing call = system.standing call)

include orderly others

theorem Orderly.apply_of_joins {flights : Flights} (away : system.standing mover = .away)
    (joined : flights = (system.store.access.flights.join key mover).1)
    (place : ((system.apply move).standing mover).place? =
      some (key, (system.store.access.flights.join key mover).2))
    {access : AccessKey} {id : FlightId} :
    ((system.apply move).standing call).place? = some (access, id) ↔
      call ∈ flights.line id ∧ flights.access? id = some access := by
  subst joined
  have absent := orderly.not_mem_line away
  by_cases same : id = (system.store.access.flights.join key mover).2
  · subst same
    rw [orderly.lined.line_join_self key mover, orderly.lined.access?_join_self key mover]
    by_cases isMover : call = mover
    · subst isMover
      rw [place]
      simp
    · rw [others isMover, orderly.inLine]
      simp only [List.mem_append, List.mem_singleton, isMover, or_false]
      refine and_congr_right fun member => ?_
      -- Those who stood at the lock before stood there for the same key.
      obtain ⟨asked, isFor⟩ := Flights.exists_access?_of_mem_line member
      have stillFor := orderly.lined.access?_join_of_some isFor key mover
      rw [orderly.lined.access?_join_self key mover] at stillFor
      rw [isFor, ← stillFor]
  · rw [Flights.line_join_of_ne _ key mover same, Flights.access?_join_of_ne _ key mover same]
    by_cases isMover : call = mover
    · subst isMover
      rw [place]
      constructor
      · intro there
        cases there
        exact absurd rfl same
      · exact fun inLine => absurd inLine.1 (absent id)
    · rw [others isMover]
      exact orderly.inLine

theorem Orderly.apply_of_leaves {flights : Flights}
    (place : (system.standing mover).place? = some (key, flight))
    (away : (system.apply move).standing mover = .away)
    (line : flights.line flight =
      (system.store.access.flights.line flight).filter (· ≠ mover))
    (otherLines : ∀ {id}, id ≠ flight → flights.line id = system.store.access.flights.line id)
    (sameKeys : ∀ id, flights.access? id = system.store.access.flights.access? id)
    {access : AccessKey} {id : FlightId} :
    ((system.apply move).standing call).place? = some (access, id) ↔
      call ∈ flights.line id ∧ flights.access? id = some access := by
  rw [sameKeys id]
  by_cases isMover : call = mover
  · subst isMover
    rw [away]
    constructor
    · exact nofun
    · rintro ⟨member, isFor⟩
      by_cases same : id = flight
      · subst same
        rw [line] at member
        simp at member
      · rw [otherLines same] at member
        have there := orderly.inLine.2 ⟨member, isFor⟩
        rw [place] at there
        cases there
        exact absurd rfl same
  · rw [others isMover, orderly.inLine]
    by_cases same : id = flight
    · subst same
      rw [line]
      simp [isMover]
    · rw [otherLines same]

end Apply

theorem Orderly.apply (orderly : system.Orderly) (move : Move) : (system.apply move).Orderly := by
  by_cases own : ∃ mover, system.isMoveOf mover move = true
  · obtain ⟨mover, own⟩ := own
    obtain ⟨current, _, passes⟩ := passes_apply own
    have others : ∀ {call}, call ≠ mover →
        (system.apply move).standing call = system.standing call := by
      intro call different
      refine standing_of_not_isMoveOf ?_
      by_contra moves
      exact different (isMoveOf_unique (by simpa using moves) own)
    have steps := passes.steps
    generalize before : system.standing mover = first at steps
    generalize after : (system.apply move).standing mover = last at steps
    cases steps with
    | stays place same =>
        constructor
        case lined =>
          rw [same]
          exact orderly.lined
        case inLine =>
          intro call access id
          rw [same, ← orderly.inLine]
          by_cases isMover : call = mover
          · rw [isMover, before, after, place]
          · rw [others isMover]
    | joins key place joined =>
        constructor
        case lined =>
          rw [joined]
          exact orderly.lined.join (orderly.not_mem_line before _)
        case inLine => exact orderly.apply_of_joins others before joined (after ▸ place)
    | leaves key flight place struck strikes left =>
        have lined : struck.Lined := by
          rcases strikes with rfl | rfl
          · exact orderly.lined
          · exact orderly.lined.strike key flight
        have locks : struck.locks = system.store.access.flights.locks := by
          rcases strikes with rfl | rfl
          · rfl
          · exact Flights.locks_strike _ key flight
        constructor
        case lined =>
          rw [left]
          exact lined.leave flight mover
        case inLine =>
          refine orderly.apply_of_leaves others (before ▸ place) after ?_ ?_ ?_
          · rw [left, lined.line_leave_self flight mover, Flights.line_of_locks locks]
          · intro id different
            rw [left, Flights.line_leave_of_ne _ mover different, Flights.line_of_locks locks]
          · intro id
            rw [left, Flights.access?_leave, Flights.access?_of_locks locks]
  · have foreign : ∀ call, system.isMoveOf call move = false := by simpa using own
    have access := access_of_foreign foreign
    have same : (system.apply move).store.access.flights = system.store.access.flights := by
      rw [access, Move.flights_onAccess]
    constructor
    case lined =>
      rw [same]
      exact orderly.lined
    case inLine =>
      intro call access id
      rw [same, standing_of_not_isMoveOf (foreign call)]
      exact orderly.inLine

theorem orderly_run (config : StoreConfig) (client : ClientId) (moves : List Move) :
    ((start config client).run moves).Orderly := by
  induction moves using List.reverseRecOn with
  | nil => exact orderly_start config client
  | append_singleton moves move inductionHypothesis =>
      rw [run_concat]
      exact inductionHypothesis.apply move

theorem holds_run (config : StoreConfig) (client : ClientId) (moves : List Move)
    (stands : ((start config client).run moves).standing call = .reviewing key flight) :
    ((start config client).run moves).store.access.flights.isHolder flight call = true := by
  induction moves using List.reverseRecOn generalizing call flight with
  | nil => cases stands
  | append_singleton moves move inductionHypothesis =>
      rw [run_concat] at stands ⊢
      exact holds_apply inductionHypothesis move stands

/-! ## At rest -/

/-- No call can go on by itself. -/
def Rested (system : System) : Prop :=
  ∀ call, system.apply (.enter call) = system ∧ system.apply (.takeLock call) = system

/-- Whoever has waited for a lock and holds it can go on. -/
theorem standing_takeLock (waits : system.standing call = .waiting key flight)
    (holds : system.store.access.flights.isHolder flight call = true) :
    (system.apply (.takeLock call)).standing call ≠ .waiting key flight := by
  cases called : system.calls[call]? with
  | none =>
      rw [standing_of_none called] at waits
      cases waits
  | some current =>
      rw [standing_of_calls called] at waits
      have own : system.isMoveOf call (.takeLock call) = true := by
        simpa [isMoveOf] using (List.getElem?_eq_some_iff.1 called).1
      obtain ⟨_, calledAfter⟩ := apply_of_isMoveOf called own
      rw [standing_of_calls calledAfter]
      simp only [Call.next, Stage.eq_queuing waits, Store.atLock, holds]
      intro waitsAfter
      cases decided : system.store.access.decisions.get? key with
      | none => simp [decided, Store.ask, Stage.standing] at waitsAfter
      | some allowed =>
          simp only [decided, Bool.not_true, Bool.false_eq_true, if_false] at waitsAfter
          rw [(Store.aside_decided _ call current.operation key allowed).standing] at waitsAfter
          cases waitsAfter

/-- Where nobody can go on by himself, whoever waits for a lock waits for a review in flight. -/
theorem Orderly.reviewing_of_rested (orderly : system.Orderly) (rested : system.Rested)
    (waits : system.standing call = .waiting key flight) :
    ∃ other, system.store.access.flights.isHolder flight other = true ∧
      system.standing other = .reviewing key flight := by
  have place : (system.standing call).place? = some (key, flight) := by rw [waits]; rfl
  obtain ⟨member, isFor⟩ := orderly.inLine.1 place
  obtain ⟨other, rest, line⟩ := List.exists_cons_of_ne_nil (List.ne_nil_of_mem member)
  have holds : system.store.access.flights.isHolder flight other = true := by
    rw [orderly.lined.isHolder_iff, line]
    rfl
  have stands := orderly.inLine.2 ⟨line ▸ List.mem_cons_self, isFor⟩
  refine ⟨other, holds, (Standing.of_place? stands).resolve_left ?_⟩
  intro otherWaits
  have goesOn := standing_takeLock otherWaits holds
  rw [(rested other).2] at goesOn
  exact goesOn otherWaits

/-! ## The register -/

/-- Every lock on the register belongs to a review in flight. -/
def Clean (system : System) : Prop :=
  ∀ key flight, system.store.access.flights.register.get? key = some flight →
    ∃ call, system.standing call = .reviewing key flight

/-- As long as no call is given up, a lock leaves the register with its review at the latest. -/
theorem Clean.apply (clean : system.Clean) (kept : ∀ call, move ≠ .giveUp call) :
    (system.apply move).Clean := by
  intro key flight listed
  by_cases own : ∃ mover, system.isMoveOf mover move = true
  · obtain ⟨mover, own⟩ := own
    obtain ⟨current, _, passes⟩ := passes_apply own
    have others : ∀ {call}, call ≠ mover →
        (system.apply move).standing call = system.standing call := by
      intro call different
      refine standing_of_not_isMoveOf ?_
      by_contra moves
      exact different (isMoveOf_unique (by simpa using moves) own)
    generalize before : system.standing mover = first at passes
    generalize after : (system.apply move).standing mover = last at passes
    -- Someone else's review goes on.
    have other : system.store.access.flights.register.get? key = some flight →
        first ≠ .reviewing key flight →
        ∃ call, (system.apply move).standing call = .reviewing key flight := by
      intro registered different
      obtain ⟨call, stands⟩ := clean key flight registered
      refine ⟨call, ?_⟩
      rw [others]
      · exact stands
      · rintro rfl
        exact different (before ▸ stands)
    cases passes with
    | stays standing access =>
        rw [access] at listed
        obtain ⟨call, stands⟩ := clean key flight listed
        refine ⟨call, ?_⟩
        by_cases isMover : call = mover
        · rw [isMover] at stands ⊢
          rw [after, ← before, stands]
        · rw [others isMover, stands]
    | forgets isReset access | reconnects client access =>
        rw [access] at listed
        exact other listed (by rintro ⟨⟩)
    | joins joined undecided access waits =>
        rw [access] at listed
        rcases Flights.register_of_join listed with registered | ⟨rfl, rfl⟩
        · exact other registered (by rintro ⟨⟩)
        · cases registered : system.store.access.flights.register.get? key with
          | some lock =>
              have same : (system.store.access.flights.join key mover).2 = lock := by
                simp [Flights.join, registered]
              rw [same]
              exact same ▸ other (same ▸ registered) (by rintro ⟨⟩)
          | none =>
              rw [Flights.isHolder_join_of_none registered mover] at waits
              cases waits
    | asksAtOnce joined undecided holds access =>
        rw [access] at listed
        rcases Flights.register_of_join listed with registered | ⟨rfl, rfl⟩
        · exact other registered (by rintro ⟨⟩)
        · exact ⟨mover, after⟩
    | asks asked lock undecided holds access =>
        rw [access] at listed
        exact other listed (by rintro ⟨⟩)
    | reads asked lock access =>
        rw [access] at listed
        exact other listed (by rintro ⟨⟩)
    | decides asked lock allowed answered access | fails asked lock error answered access =>
        rw [access] at listed
        obtain ⟨registered, notStruck⟩ := Flights.register_of_strike listed
        refine other registered ?_
        intro same
        cases same
        exact notStruck ⟨rfl, rfl⟩
    | leaves standing lock atLock access given => exact absurd given (kept mover)
  · have foreign : ∀ call, system.isMoveOf call move = false := by simpa using own
    rw [access_of_foreign foreign, Move.flights_onAccess] at listed
    obtain ⟨call, stands⟩ := clean key flight listed
    exact ⟨call, by rw [standing_of_not_isMoveOf (foreign call), stands]⟩

theorem clean_run (config : StoreConfig) (client : ClientId) (moves : List Move)
    (kept : ∀ call, .giveUp call ∉ moves) : ((start config client).run moves).Clean := by
  induction moves using List.reverseRecOn with
  | nil =>
      intro key flight listed
      cases listed
  | append_singleton moves move inductionHypothesis =>
      rw [run_concat]
      have earlier : ((start config client).run moves).Clean :=
        inductionHypothesis fun call member => kept call (List.mem_append_left _ member)
      refine earlier.apply ?_
      rintro call rfl
      exact kept call (List.mem_append_right _ (List.mem_singleton.2 rfl))

/-- When no call is running, nothing is on a clean register. -/
theorem Clean.register_eq_empty (clean : system.Clean)
    (idle : ∀ (call : CallId) (current : Call), system.calls[call]? = some current →
      current.stage.isPending = false) :
    system.store.access.flights.register = Table.empty := by
  have unlisted : ∀ key, system.store.access.flights.register.get? key = none := by
    intro key
    by_contra listed
    obtain ⟨flight, listed⟩ := Option.ne_none_iff_exists'.1 listed
    obtain ⟨call, stands⟩ := clean key flight listed
    obtain ⟨current, lock, called, reviews⟩ := Reviews.called ⟨flight, stands⟩
    have ended := idle call current called
    cases stage : current.stage with
    | finished result | dropped =>
        rw [stage] at reviews
        cases reviews
    | _ =>
        rw [stage] at ended
        cases ended
  exact Table.eq_empty_of_get? unlisted

end System

end ClusterCache
