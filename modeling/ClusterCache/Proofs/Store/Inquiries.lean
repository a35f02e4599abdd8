import ClusterCache.Proofs.Store.Deeds

/-!
# Steps that only inquire

Until it knows that it has access, a call does nothing but ask which resource is meant and whether
access is allowed. Such a step leaves everything that is held as it was, tells nobody anything and
sends no request to read or to change an object. It decides nothing either, unless it takes the
answer of a review.
-/

namespace ClusterCache

/-- The request reads no object, changes none and opens no watch. -/
def Request.isInquiry : Request → Bool
  | .resource _ | .review _ => true
  | _ => false

/-- The entry notes that an inquiry was sent. -/
def Entry.isInquiry : Entry → Bool
  | .sent _ request => request.isInquiry
  | _ => false

/-- An operation on the objects of a kind, by its key and its verb. -/
def Operation.need? : Operation → Option (Key × Verb)
  | .list key => some (key, .list)
  | .get key => some (key, .get)
  | .watch key .. => some (key, .watch)
  | .delete key => some (key, .delete)
  | .update key _ => some (key, .update)
  | _ => none

theorem Operation.demand?_of_need? {operation : Operation} {key : Key} {verb : Verb}
    (need : operation.need? = some (key, verb)) :
    operation.demand? = some (key, verb.text) := by
  cases operation <;> cases need <;> rfl

namespace Store

/-- Nothing that is held was touched, no callback was registered, and the journal has gained nothing
but inquiries. -/
structure Untouched (before after : Store) : Prop where
  holdings : after.holdings = before.holdings
  client : after.client = before.client
  callbacks : after.callbacks = before.callbacks
  journal : ∃ inquiries, after.journal = inquiries ++ before.journal ∧
    ∀ entry ∈ inquiries, entry.isInquiry = true

/-- Besides, nothing was decided. -/
structure Inquires (before after : Store) : Prop extends Untouched before after where
  decisions : after.access.decisions = before.access.decisions

theorem Untouched.trans {first second third : Store} (left : first.Untouched second)
    (right : second.Untouched third) : first.Untouched third where
  holdings := right.holdings.trans left.holdings
  client := right.client.trans left.client
  callbacks := right.callbacks.trans left.callbacks
  journal := by
    obtain ⟨early, earlyJournal, earlyInquiries⟩ := left.journal
    obtain ⟨late, lateJournal, lateInquiries⟩ := right.journal
    refine ⟨late ++ early, by rw [lateJournal, earlyJournal, List.append_assoc], ?_⟩
    intro entry member
    rcases List.mem_append.1 member with inLate | inEarly
    · exact lateInquiries entry inLate
    · exact earlyInquiries entry inEarly

/-- Changes of the gate, the locks and the decisions leave the rest untouched. -/
theorem untouched_of_access (store : Store) (gate : Gate) (access : AccessGate) :
    store.Untouched { store with gate, access } where
  holdings := rfl
  client := rfl
  callbacks := rfl
  journal := ⟨[], rfl, fun _ member => absurd member List.not_mem_nil⟩

/-- Changes of the gate and the locks decide nothing. -/
theorem inquires_of_flights (store : Store) (gate : Gate) (flights : Flights) :
    store.Inquires { store with gate, access.flights := flights } where
  toUntouched := untouched_of_access store gate _
  decisions := rfl

theorem Inquires.refl (store : Store) : store.Inquires store :=
  inquires_of_flights store store.gate store.access.flights

theorem Inquires.trans {first second third : Store} (left : first.Inquires second)
    (right : second.Inquires third) : first.Inquires third where
  toUntouched := left.toUntouched.trans right.toUntouched
  decisions := right.decisions.trans left.decisions

/-! ## Steps of calls -/

theorem inquires_ask (store : Store) (client : ClientId) {request : Request}
    (purpose : Purpose) (inquiry : request.isInquiry = true) :
    store.Inquires (store.ask client request purpose).1 where
  holdings := rfl
  client := rfl
  callbacks := rfl
  journal := ⟨[.sent client request], rfl, fun entry member => by
    rw [List.mem_singleton.1 member]
    exact inquiry⟩
  decisions := rfl

theorem inquires_fail (store : Store) (call : CallId) (operation : Operation) (error : Error) :
    store.Inquires (store.fail call operation error).1 :=
  inquires_of_flights store (store.gate.leave call) store.access.flights

theorem inquires_giveUp (store : Store) (call : CallId) (stage : Stage) :
    store.Inquires (store.giveUp call stage) := by
  unfold giveUp
  split
  · exact inquires_of_flights store _ _
  · exact inquires_of_flights store _ _
  · exact inquires_of_flights store _ store.access.flights

theorem inquires_locate (store : Store) (call : CallId) (operation : Operation) (key : Key) :
    store.Inquires (store.locate call operation key).1 := by
  unfold locate
  split
  · exact inquires_fail store call operation _
  · exact inquires_ask store _ _ rfl

theorem inquires_askNamedMapping (store : Store) (call : CallId) (operation : Operation)
    (key : Key) : store.Inquires (store.askNamedMapping call operation key).1 := by
  unfold askNamedMapping
  split
  · exact inquires_ask store _ _ rfl
  · exact inquires_fail store call operation _

variable {operation : Operation} {key : Key} {verb : Verb}

theorem inquires_decided (need : operation.need? = some (key, verb)) (store : Store)
    (call : CallId) (access : AccessKey) (allowed : Bool) :
    store.Inquires (store.decided call operation access allowed).1 := by
  unfold decided
  split
  · exact inquires_fail store call operation _
  · cases operation with
    | list key => exact inquires_ask store _ _ rfl
    | watch key listener type => exact inquires_ask store _ _ rfl
    | get key => exact inquires_askNamedMapping store call _ key
    | delete key => exact inquires_askNamedMapping store call _ key
    | update key change => exact inquires_askNamedMapping store call _ key
    | _ => cases need

theorem inquires_atLock (need : operation.need? = some (key, verb)) (store : Store)
    (call : CallId) (access : AccessKey) (flight : FlightId) :
    store.Inquires (store.atLock call operation access flight).1 := by
  unfold atLock
  split
  · exact Inquires.refl store
  · split
    · exact (inquires_of_flights store store.gate _).trans
        (inquires_decided need _ call access _)
    · exact inquires_ask store _ _ rfl

theorem inquires_located (need : operation.need? = some (key, verb)) (store : Store)
    (call : CallId) (access : AccessKey) :
    store.Inquires (store.located call operation access).1 := by
  unfold located
  split
  · exact inquires_decided need store call access _
  · exact (inquires_of_flights store store.gate _).trans (inquires_atLock need _ call access _)

/-- A review that failed decides nothing. -/
theorem inquires_reviewed_error (store : Store) (call : CallId) (operation : Operation)
    (access : AccessKey) (flight : FlightId) (error : Error) :
    store.Inquires (store.reviewed call operation access flight (.error error)).1 :=
  (inquires_of_flights store store.gate _).trans (inquires_fail _ call operation _)

/-- A review decides what it was asked, and nothing else. -/
theorem untouched_reviewed (need : operation.need? = some (key, verb)) (store : Store)
    (call : CallId) (access : AccessKey) (flight : FlightId) (allowed : Bool) :
    store.Untouched (store.reviewed call operation access flight (.ok allowed)).1 ∧
      (store.reviewed call operation access flight (.ok allowed)).1.access.decisions =
        store.access.decisions.insert access allowed := by
  have inquires := inquires_decided need
    { store with
      access.decisions := store.access.decisions.insert access allowed
      access.flights := (store.access.flights.strike access flight).leave flight call }
    call access allowed
  exact ⟨(untouched_of_access store store.gate _).trans inquires.toUntouched,
    inquires.decisions⟩

/-! ## Where calls stand afterwards -/

/-- A denial is passed on as it is. -/
theorem stage_decided_false (store : Store) (call : CallId) (operation : Operation)
    (access : AccessKey) :
    (store.decided call operation access false).2 =
      .finished (.error (.accessDenied access)) := by
  cases operation <;> rfl

/-- With access, an operation on objects asks which resource to work on, unless it lacks a name. -/
theorem stage_decided_true (need : operation.need? = some (key, verb)) (store : Store)
    (call : CallId) (access : AccessKey) :
    (store.decided call operation access true).2 =
        .asking store.client (.resource key.groupVersionKind) .map ∨
      ∃ error, (store.decided call operation access true).2 = .finished (.error error) := by
  have named : ∀ (operation : Operation) (key : Key),
      (store.askNamedMapping call operation key).2 =
          .asking store.client (.resource key.groupVersionKind) .map ∨
        ∃ error, (store.askNamedMapping call operation key).2 = .finished (.error error) := by
    intro operation key
    unfold askNamedMapping
    split
    · exact Or.inl rfl
    · exact Or.inr ⟨_, rfl⟩
  cases operation with
  | list key => cases need; exact Or.inl rfl
  | watch key listener type => cases need; exact Or.inl rfl
  | get key => cases need; exact named _ key
  | delete key => cases need; exact named _ key
  | update key change => cases need; exact named _ key
  | _ => cases need

/-! ## Decisions -/

@[simp] theorem access_finish (store : Store) (call : CallId) (operation : Operation)
    (result : Except Error Outcome) :
    (store.finish call operation result).1.access = store.access := by
  obtain ⟨ran, callbacks, ending, same, _⟩ := finish_eq store call operation result
  rw [same]

@[simp] theorem access_serve (store : Store) (key : Key) (resource : ApiResource) :
    (store.serve key resource).1.access = store.access := by
  have obtained : (store.obtainInformer resource).1.access = store.access := by
    simp only [obtainInformer]
    split <;> rfl
  rw [← obtained]
  simp only [serve, noteUse]
  split <;> split <;> rfl

/-- Working on a resource decides nothing. -/
@[simp] theorem access_mapped (store : Store) (call : CallId) (operation : Operation)
    (resource : ApiResource) :
    (store.mapped call operation resource).1.access = store.access := by
  cases operation <;> simp [mapped, subscribe, ask, enterJournal]

@[simp] theorem access_changed (store : Store) (call : CallId) (operation : Operation)
    (client : ClientId) (resource : ApiResource) (object : Option Object) :
    (store.changed call operation client resource object).1.access = store.access := by
  unfold changed
  split
  · split
    · exact access_finish store call _ _
    · split
      · exact access_finish store call _ _
      · rfl
  · exact access_finish store call _ _

end Store

end ClusterCache
