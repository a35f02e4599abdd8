import ClusterCache.Proofs.Informer.Loop
import ClusterCache.Proofs.Informers.Lifetimes
import ClusterCache.Proofs.Informers.Types

/-!
# The informers as a roster

A roster keeps, for each type of resource, only whether an informer was never asked for, was
stopped, or is current, and which one. It knows nothing of tokens, streams or replicas; of a loop it
is told when an item is taken in. Main statement: whatever is done to the informers, and however
their loops turn in between, every answer they give is the one that the roster gives, a stream is
opened exactly when the roster has no informer to reuse, and what concerns one type changes no
answer about another.
-/

namespace ClusterCache

/-! ## Items that complete a list -/

/-- The item completes a full list. -/
def StreamItem.completes : StreamItem → Bool
  | .event .initDone => true
  | _ => false

theorem Replica.synced_takeItem (replica : Replica) (item : StreamItem) :
    (replica.takeItem item).1.synced = (replica.synced || item.completes) := by
  cases item with
  | failure => simp [takeItem, StreamItem.completes]
  | event event => cases event <;> simp [takeItem, take, StreamItem.completes]

namespace Informers

variable {η : Type}

/-! ## Runs -/

inductive Event (η : Type)
  | command (command : Command)
  | send (id : InformerId) (item : StreamItem)
  | endStream (id : InformerId)
  | register (id : InformerId) (change : Handlers η → Handlers η)
  /-- The loop of an informer turns. What its handlers do to the informers when they are told
  follows as events of their own. -/
  | turn (id : InformerId)

/-- The informers as the world of one of their loops, whose handlers leave them alone. -/
def loop (id : InformerId) : Surroundings (Informers η) η where
  informer informers := informers.informer id
  replace informer informers := informers.modify id fun _ => informer
  isCancelled informers := informers.isStopped id
  call _ _ informers := informers

def happen (informers : Informers η) : Event η → Informers η
  | .command command => informers.obey command
  | .send id item => informers.modify id fun informer => informer.send item
  | .endStream id => informers.modify id Informer.endStream
  | .register id change =>
      informers.modify id fun informer =>
        { informer with handlers := change informer.handlers }
  | .turn id => (loop id).turn informers

def afterAll (informers : Informers η) (events : List (Event η)) : Informers η :=
  events.foldl happen informers

/-- The one type of resource that an event is about, if there is one. -/
def concern? (informers : Informers η) : Event η → Option ResourceType
  | .command (.obtain resource) => some (.ofResource resource)
  | .command (.stop type) => some type
  | .command _ => none
  | .send id _ | .endStream id | .register id _ | .turn id => some (informers.informer id).type

/-! ## Turns -/

def takenIn (informers : Informers η) (id : InformerId) (item : StreamItem) : Informers η :=
  informers.modify id fun informer =>
    { informer with
      inbox := informer.inbox.tail
      replica := (informer.replica.takeItem item).1 }

theorem deliver_loop (id : InformerId) (changes : List Change) (informers : Informers η) :
    (loop id).deliver changes informers = informers :=
  (loop id).deliver_keeps (fun before after => after = before) (fun _ => rfl)
    (fun left right => right.trans left) (fun _ _ _ => rfl) changes informers

theorem lt_length_of_next? {informers : Informers η} {id : InformerId} {item : StreamItem}
    (next : (loop id).next? informers = some item) : id < informers.started.length := by
  refine Nat.lt_of_not_le fun unused => ?_
  have noItem : (loop id).next? informers = none := by
    simp only [Surroundings.next?, loop, informer_of_le unused]
    split <;> rfl
  rw [noItem] at next
  cases next

/-- Taking an item in is done in two replacements. -/
theorem modify_modify {informers : Informers η} {id : InformerId}
    (used : id < informers.started.length) (first : Informer η)
    (change : Informer η → Informer η) :
    (informers.modify id fun _ => first).modify id (fun _ =>
        change ((informers.modify id fun _ => first).informer id)) =
      informers.modify id fun _ => change first := by
  rw [informer_modify_self used]
  simp only [modify, Informers.mk.injEq, true_and, and_true]
  apply List.ext_getElem?
  intro other
  rw [List.getElem?_modify, List.getElem?_modify, List.getElem?_modify]
  by_cases same : id = other
  · subst same
    simp [used]
  · simp [same]

theorem modify_const {informers : Informers η} (id : InformerId)
    (change : Informer η → Informer η) :
    (informers.modify id fun _ => change (informers.informer id)) = informers.modify id change := by
  simp only [modify, Informers.mk.injEq, true_and, and_true]
  apply List.ext_getElem?
  intro other
  rw [List.getElem?_modify, List.getElem?_modify]
  by_cases same : id = other
  · subst same
    cases stored : informers.started[id]? with
    | none => simp
    | some entry => simp [informer, stored]
  · simp [same]

theorem turn_of_some {informers : Informers η} {id : InformerId} {item : StreamItem}
    (next : (loop id).next? informers = some item) :
    (loop id).turn informers = informers.takenIn id item := by
  have used := lt_length_of_next? next
  rw [(loop id).turn_of_next?_some next, Surroundings.absorb, deliver_loop]
  exact (modify_modify used _ fun informer =>
    { informer with replica := (informer.replica.takeItem item).1 }).trans
    (modify_const id fun informer =>
      { informer with
        inbox := informer.inbox.tail
        replica := (informer.replica.takeItem item).1 })

end Informers

/-! ## Rosters -/

/-- What a roster has for a type: nothing, an informer that was stopped, or a current one. -/
inductive Place
  | vacant
  | cleared
  | held (id : InformerId)
deriving DecidableEq, Repr

namespace Place

def holder? : Place → Option InformerId
  | held id => some id
  | _ => none

/-- What stands in the table of informers for the place. -/
def slot? : Place → Option (Option InformerId)
  | vacant => none
  | cleared => some none
  | held id => some (some id)

theorem join_slot? (place : Place) : place.slot?.join = place.holder? := by
  cases place <;> rfl

theorem holder?_eq_some_iff {place : Place} {id : InformerId} :
    place.holder? = some id ↔ place = .held id := by
  cases place <;> simp [holder?]

end Place

/-- A roster of informers, one for each type. -/
structure Roster where
  place : ResourceType → Place
  started : Nat
  /-- All informers were stopped for good. -/
  closed : Bool
  /-- The informer has completed a full list. -/
  listed : InformerId → Bool

namespace Roster

def empty : Roster := ⟨fun _ => .vacant, 0, false, fun _ => false⟩

def put (roster : Roster) (type : ResourceType) (place : Place) : Roster :=
  { roster with place := Function.update roster.place type place }

/-- The informer for a type: the current one, unless all were stopped for good; else a new one. Also
returns whether it is new. -/
def obtain (roster : Roster) (type : ResourceType) : Roster × InformerId × Bool :=
  match roster.place type, roster.closed with
  | .held id, false => (roster, id, false)
  | _, _ =>
      ({ roster.put type (.held roster.started) with started := roster.started + 1 },
        roster.started, true)

/-- Stops the informer of a type. Also returns whether one was current. -/
def stop (roster : Roster) (type : ResourceType) : Roster × Bool :=
  match roster.place type with
  | .held _ => (roster.put type .cleared, true)
  | _ => (roster, false)

/-- What has become of the informer of a type. -/
def state (roster : Roster) (type : ResourceType) : InformerState :=
  match roster.place type with
  | .vacant => .unrequested
  | .cleared => .stopped
  | .held id =>
      if roster.closed then .stopped else if roster.listed id then .synced else .starting

inductive Action
  | command (command : Informers.Command)
  /-- The loop of an informer has taken an item in. -/
  | took (id : InformerId) (item : StreamItem)

def attend (roster : Roster) : Action → Roster
  | .command (.obtain resource) => (roster.obtain (.ofResource resource)).1
  | .command (.stop type) => (roster.stop type).1
  | .command .stopAll => { roster with place := fun _ => .vacant }
  | .command (.changeClient _) => roster
  | .command .shutdown => { roster with closed := true }
  | .took id item =>
      { roster with
        listed := Function.update roster.listed id (roster.listed id || item.completes) }

def attendAll (roster : Roster) (actions : List Action) : Roster := actions.foldl attend roster

end Roster

namespace Informers

variable {η : Type}

/-- What a roster is told of an event. -/
def action? (informers : Informers η) : Event η → Option Roster.Action
  | .command command => some (.command command)
  | .turn id => ((loop id).next? informers).map (.took id)
  | _ => none

/-- What a roster is told of a run. -/
def actions : Informers η → List (Event η) → List Roster.Action
  | _, [] => []
  | informers, event :: rest =>
      (informers.action? event).toList ++ (informers.happen event).actions rest

/-! ## Informers tracked by a roster -/

/-- The roster has the informers right. -/
structure Tracked (informers : Informers η) (roster : Roster) : Prop where
  owned : informers.Owned
  distinct : informers.current.Distinct
  place : ∀ type, informers.current.get? type = (roster.place type).slot?
  started : informers.started.length = roster.started
  closed : informers.tokens.closed = roster.closed
  listed : ∀ id, (informers.informer id).replica.synced = roster.listed id

theorem tracked_empty (client : ClientId) (ns : Option String) :
    (empty client ns : Informers η).Tracked .empty where
  owned := owned_empty client ns
  distinct := Table.distinct_empty
  place _ := rfl
  started := rfl
  closed := rfl
  listed _ := rfl

section Tracked

variable {informers : Informers η} {roster : Roster} (tracked : informers.Tracked roster)
include tracked

theorem Tracked.find? (type : ResourceType) :
    informers.find? type = (roster.place type).holder? := by
  rw [Informers.find?, tracked.place, Place.join_slot?]

theorem Tracked.isStopped {type : ResourceType} {id : InformerId}
    (found : informers.find? type = some id) : informers.isStopped id = roster.closed := by
  rw [← tracked.closed]
  cases closed : informers.tokens.closed with
  | true => exact isStopped_iff.2 (Or.inl closed)
  | false => exact tracked.owned.live closed found

theorem Tracked.reusable? (resource : ApiResource) :
    informers.reusable? resource =
      if roster.closed then none else (roster.place (.ofResource resource)).holder? := by
  rw [Informers.reusable?, ← tracked.find?]
  cases found : informers.find? (.ofResource resource) with
  | none => simp
  | some id =>
      rw [Option.filter, tracked.isStopped found]
      cases roster.closed <;> rfl

theorem Tracked.state (type : ResourceType) : informers.state type = roster.state type := by
  have stored := tracked.place type
  unfold Informers.state Roster.state
  cases place : roster.place type with
  | vacant => rw [stored, place]; rfl
  | cleared => rw [stored, place]; rfl
  | held id =>
      rw [place] at stored
      have found : informers.find? type = some id := by rw [Informers.find?, stored]; rfl
      simp only [stored, Place.slot?, stateOf, Informer.state, tracked.isStopped found,
        tracked.listed]

/-! ### Commands -/

theorem Tracked.obtain_snd (resource : ApiResource) :
    (informers.obtain resource).2 = (roster.obtain (.ofResource resource)).2 := by
  have reusable := tracked.reusable? resource
  have started := tracked.started
  unfold Informers.obtain Roster.obtain
  cases place : roster.place (.ofResource resource) <;> cases closed : roster.closed <;>
    simp [reusable, place, closed, Place.holder?, Informers.start, started]

theorem Tracked.start (resource : ApiResource)
    (vacant : informers.tokens.closed = false →
      informers.find? (.ofResource resource) = none) :
    (informers.start resource).1.Tracked
      { roster.put (.ofResource resource) (.held roster.started) with
        started := roster.started + 1 } where
  owned := tracked.owned.start vacant
  distinct := tracked.distinct.insert _ _
  place type := by
    simp only [Informers.start, Table.get?_insert, Roster.put, Function.update_apply,
      tracked.started, tracked.place]
    split <;> rfl
  started := by rw [length_started_start, tracked.started]
  closed := (Tokens.closed_renew _ _).trans tracked.closed
  listed id := by rw [(continues_start informers resource).replica, tracked.listed]; rfl

theorem Tracked.obtain (resource : ApiResource) :
    (informers.obtain resource).1.Tracked (roster.obtain (.ofResource resource)).1 := by
  have reusable := tracked.reusable? resource
  cases reused : informers.reusable? resource with
  | some id =>
      have isOpen : roster.closed = false := by
        rw [reused] at reusable
        by_contra closed
        simp [closed] at reusable
      have held : roster.place (.ofResource resource) = .held id := by
        rw [reused, isOpen] at reusable
        exact Place.holder?_eq_some_iff.1 reusable.symm
      simpa [Informers.obtain, Roster.obtain, reused, held, isOpen] using tracked
  | none =>
      have started := tracked.start resource (tracked.owned.vacant_of_reusable reused)
      have opens : (roster.obtain (.ofResource resource)).1 =
          { roster.put (.ofResource resource) (.held roster.started) with
            started := roster.started + 1 } := by
        rw [reused] at reusable
        unfold Roster.obtain
        split
        · rename_i held isOpen
          simp [held, isOpen, Place.holder?] at reusable
        · rfl
      rw [opens]
      simpa [Informers.obtain, reused] using started

theorem Tracked.stop_snd (type : ResourceType) :
    (informers.stop type).2 = (roster.stop type).2 := by
  simp only [Informers.stop, tracked.find?, Roster.stop]
  cases roster.place type <;> rfl

theorem Tracked.stop (type : ResourceType) :
    (informers.stop type).1.Tracked (roster.stop type).1 := by
  have stored := tracked.place
  have others : (roster.stop type).1.started = roster.started ∧
      (roster.stop type).1.closed = roster.closed ∧
      (roster.stop type).1.listed = roster.listed := by
    unfold Roster.stop
    split <;> exact ⟨rfl, rfl, rfl⟩
  obtain ⟨sameStarted, sameClosed, sameListed⟩ := others
  constructor
  case owned => exact tracked.owned.stop type
  case distinct =>
    simp only [Informers.stop]
    split
    · exact tracked.distinct.insert _ _
    · exact tracked.distinct
  case place =>
    intro other
    have place : (roster.stop type).1.place other =
        if other = type ∧ roster.place type ≠ .vacant then .cleared else roster.place other := by
      unfold Roster.stop
      by_cases same : other = type
      · subst same
        cases known : roster.place other <;> simp [Roster.put, known]
      · cases known : roster.place type <;> simp [Roster.put, same]
    rw [place]
    simp only [Informers.stop, Table.contains, stored]
    by_cases same : other = type
    · subst same
      cases known : roster.place other <;> simp [Place.slot?, stored, known]
    · cases known : roster.place type <;>
        simp [Place.slot?, stored, same, Table.get?_insert]
  case started => exact tracked.started.trans sameStarted.symm
  case closed => exact (Tokens.closed_revoke _ _).trans (tracked.closed.trans sameClosed.symm)
  case listed => exact fun id => (tracked.listed id).trans (congrFun sameListed.symm id)

theorem Tracked.stopAll :
    informers.stopAll.1.Tracked { roster with place := fun _ => .vacant } where
  owned := tracked.owned.stopAll
  distinct := Table.distinct_empty
  place _ := rfl
  started := tracked.started
  closed := tracked.closed
  listed := tracked.listed

theorem Tracked.shutdown : informers.shutdown.Tracked { roster with closed := true } where
  owned := tracked.owned.shutdown
  distinct := tracked.distinct
  place := tracked.place
  started := tracked.started
  closed := rfl
  listed := tracked.listed

theorem Tracked.changeClient (client : ClientId) :
    (informers.changeClient client).Tracked roster where
  owned := tracked.owned.of_steady (steady_changeClient informers client)
  distinct := tracked.distinct
  place := tracked.place
  started := tracked.started
  closed := tracked.closed
  listed := tracked.listed

theorem Tracked.obey (command : Command) :
    (informers.obey command).Tracked (roster.attend (.command command)) := by
  cases command with
  | obtain resource => exact tracked.obtain resource
  | stop type => exact tracked.stop type
  | stopAll => exact tracked.stopAll
  | changeClient client => exact tracked.changeClient client
  | shutdown => exact tracked.shutdown

/-! ### Streams and loops -/

/-- Whatever changes an informer, but neither its token, its type nor whether it is synced. -/
theorem Tracked.modify (id : InformerId) (change : Informer η → Informer η)
    (token : (change (informers.informer id)).token = (informers.informer id).token)
    (type : (change (informers.informer id)).type = (informers.informer id).type)
    (replica : (change (informers.informer id)).replica = (informers.informer id).replica) :
    (informers.modify id change).Tracked roster where
  owned := tracked.owned.of_steady
    (steady_modify informers id token type fun synced => by rwa [replica])
  distinct := tracked.distinct
  place := tracked.place
  started := (length_started_modify informers id change).trans tracked.started
  closed := tracked.closed
  listed other := by
    rw [informer_modify_eq informers id Informer.replica replica other, tracked.listed]

theorem Tracked.takenIn {id : InformerId} (used : id < informers.started.length)
    (item : StreamItem) :
    (informers.takenIn id item).Tracked (roster.attend (.took id item)) where
  owned := tracked.owned.of_steady
    (steady_modify informers id rfl rfl fun synced => by
      rw [Replica.synced_takeItem, synced, Bool.true_or])
  distinct := tracked.distinct
  place := tracked.place
  started := (length_started_modify informers id _).trans tracked.started
  closed := tracked.closed
  listed other := by
    simp only [Informers.takenIn, Roster.attend, Function.update_apply]
    split
    · rename_i same
      rw [same, informer_modify_self used, ← tracked.listed, Replica.synced_takeItem]
    · rename_i different
      rw [informer_modify_of_ne informers different, tracked.listed]

theorem Tracked.turn (id : InformerId) :
    ((loop id).turn informers).Tracked
      ((informers.action? (.turn id)).toList.foldl Roster.attend roster) := by
  cases next : (loop id).next? informers with
  | some item =>
      rw [turn_of_some next, action?, next]
      exact tracked.takenIn (lt_length_of_next? next) item
  | none =>
      rw [action?, next]
      rcases (loop id).turn_of_next?_none next with same | left
      · rw [same]
        exact tracked
      · rw [left]
        exact tracked.modify id (fun _ => { informers.informer id with running := false })
          rfl rfl rfl

theorem Tracked.happen (event : Event η) :
    (informers.happen event).Tracked
      ((informers.action? event).toList.foldl Roster.attend roster) := by
  cases event with
  | command command => exact tracked.obey command
  | send id item =>
      exact tracked.modify id (fun informer => informer.send item) (Informer.token_send _ item)
        (Informer.type_send _ item) (Informer.replica_send _ item)
  | endStream id => exact tracked.modify id Informer.endStream rfl rfl rfl
  | register id change =>
      exact tracked.modify id
        (fun informer => { informer with handlers := change informer.handlers }) rfl rfl rfl
  | turn id => exact tracked.turn id

end Tracked

theorem Tracked.afterAll {informers : Informers η} {roster : Roster}
    (tracked : informers.Tracked roster) (events : List (Event η)) :
    (informers.afterAll events).Tracked (roster.attendAll (informers.actions events)) := by
  induction events generalizing informers roster with
  | nil => exact tracked
  | cons event rest inductionHypothesis =>
      have step := inductionHypothesis (tracked.happen event)
      rw [Informers.actions, Roster.attendAll, List.foldl_append]
      exact step

/-! ## What does not concern a type -/

/-- The informers answer alike about a type, and its current informer is the same. -/
structure SameFor (before : Informers η) (type : ResourceType) (after : Informers η) : Prop where
  find : after.find? type = before.find? type
  state : after.state type = before.state type
  created : ∀ resource, .ofResource resource = type →
    (after.obtain resource).2.2 = (before.obtain resource).2.2
  stop : (after.stop type).2 = (before.stop type).2
  listed : type ∈ after.types ↔ type ∈ before.types
  informer : ∀ id, before.find? type = some id → after.informer id = before.informer id

theorem SameFor.refl (type : ResourceType) (informers : Informers η) :
    informers.SameFor type informers :=
  ⟨rfl, rfl, fun _ _ => rfl, rfl, Iff.rfl, fun _ _ => rfl⟩

section SameFor

variable {before after : Informers η} {roster rosterAfter : Roster} {type other : ResourceType}

/-- What decides the answers about a type is its entry, its current informer, if it has one, and
whether all informers were stopped for good. -/
theorem Tracked.sameFor_of_current (tracked : before.Tracked roster)
    (trackedAfter : after.Tracked rosterAfter)
    (current : after.current.get? type = before.current.get? type)
    (closed : after.tokens.closed = before.tokens.closed)
    (informer : ∀ id, before.find? type = some id → after.informer id = before.informer id) :
    before.SameFor type after := by
  have found : after.find? type = before.find? type := by
    rw [Informers.find?, Informers.find?, current]
  -- A current informer is stopped only with all the others, so its own token need not be compared.
  have stopped : ∀ id, before.find? type = some id →
      after.isStopped id = before.isStopped id := by
    intro id isCurrent
    rw [tracked.isStopped isCurrent, trackedAfter.isStopped (found.trans isCurrent),
      ← tracked.closed, ← trackedAfter.closed, closed]
  refine ⟨found, ?_, ?_, ?_, ?_, informer⟩
  · unfold Informers.state
    rw [current]
    cases stored : before.current.get? type with
    | none => rfl
    | some entry =>
        cases entry with
        | none => rfl
        | some id =>
            have isCurrent : before.find? type = some id := by
              rw [Informers.find?, stored]
              rfl
            simp only [stateOf, informer id isCurrent, stopped id isCurrent]
  · intro resource same
    have reusable : after.reusable? resource = before.reusable? resource := by
      unfold Informers.reusable?
      rw [same, found]
      cases isCurrent : before.find? type with
      | none => rfl
      | some id => simp only [Option.filter, stopped id isCurrent]
    unfold Informers.obtain
    rw [reusable]
    cases before.reusable? resource <;> rfl
  · simp only [Informers.stop, found]
  · rw [mem_types_iff trackedAfter.distinct, mem_types_iff tracked.distinct, found]

/-- To change an informer of one type changes nothing for another. -/
theorem Tracked.sameFor_modify (tracked : before.Tracked roster) (id : InformerId)
    (change : Informer η → Informer η)
    (trackedAfter : (before.modify id change).Tracked rosterAfter)
    (different : other ≠ (before.informer id).type) :
    before.SameFor other (before.modify id change) := by
  refine tracked.sameFor_of_current trackedAfter rfl rfl fun otherId isCurrent => ?_
  refine informer_modify_of_ne before (fun same => different ?_) change
  rw [← same, tracked.owned.type isCurrent]

theorem Tracked.sameFor_obtain (tracked : before.Tracked roster) (resource : ApiResource)
    (different : other ≠ .ofResource resource) :
    before.SameFor other (before.obtain resource).1 := by
  refine tracked.sameFor_of_current (tracked.obtain resource) ?_
    (closed_obtain before resource) fun id isCurrent => ?_
  · unfold Informers.obtain
    cases before.reusable? resource with
    | some _ => rfl
    | none => exact Table.get?_insert_of_ne _ different _
  · unfold Informers.obtain
    cases before.reusable? resource with
    | some _ => rfl
    | none =>
        have used := tracked.owned.used isCurrent
        exact informer_start_of_ne before resource (Nat.ne_of_lt used)

theorem Tracked.sameFor_stop (tracked : before.Tracked roster) (different : other ≠ type) :
    before.SameFor other (before.stop type).1 := by
  refine tracked.sameFor_of_current (tracked.stop type) ?_ (Tokens.closed_revoke _ _)
    fun _ _ => rfl
  simp only [Informers.stop]
  split
  · exact Table.get?_insert_of_ne _ different _
  · rfl

/-- A turn changes at most the informer whose loop turns. -/
theorem turn_loop_eq_modify (informers : Informers η) (id : InformerId) :
    (loop id).turn informers = informers ∨
      ∃ change, (loop id).turn informers = informers.modify id change := by
  cases next : (loop id).next? informers with
  | some item => exact Or.inr ⟨_, turn_of_some next⟩
  | none =>
      exact ((loop id).turn_of_next?_none next).imp_right fun left =>
        ⟨fun _ => { informers.informer id with running := false }, left⟩

/-- An event that concerns one type changes no answer about another. -/
theorem Tracked.sameFor (tracked : before.Tracked roster) {event : Event η}
    (concern : before.concern? event = some type) (different : other ≠ type) :
    before.SameFor other (before.happen event) := by
  have trackedAfter := tracked.happen event
  cases event with
  | command command =>
      cases command with
      | obtain resource =>
          cases Option.some.inj concern
          exact tracked.sameFor_obtain resource different
      | stop stopped =>
          cases Option.some.inj concern
          exact tracked.sameFor_stop different
      -- A reset and a shutdown concern every type.
      | stopAll => cases concern
      | changeClient client => cases concern
      | shutdown => cases concern
  | send id item =>
      cases Option.some.inj concern
      exact tracked.sameFor_modify id (fun informer => informer.send item) trackedAfter different
  | endStream id =>
      cases Option.some.inj concern
      exact tracked.sameFor_modify id Informer.endStream trackedAfter different
  | register id change =>
      cases Option.some.inj concern
      exact tracked.sameFor_modify id
        (fun informer => { informer with handlers := change informer.handlers })
        trackedAfter different
  | turn id =>
      cases Option.some.inj concern
      have happened : before.happen (.turn id) = (loop id).turn before := rfl
      rw [happened] at trackedAfter ⊢
      rcases turn_loop_eq_modify before id with same | ⟨change, turned⟩
      · rw [same]
        exact SameFor.refl other before
      · rw [turned] at trackedAfter ⊢
        exact tracked.sameFor_modify id change trackedAfter different

end SameFor

/-! ## Every run -/

/-- The informers give the answers of the roster. -/
structure Agrees (informers : Informers η) (roster : Roster) : Prop where
  find : ∀ type, informers.find? type = (roster.place type).holder?
  state : ∀ type, informers.state type = roster.state type
  stopped : ∀ type id, roster.place type = .held id → informers.isStopped id = roster.closed
  obtain : ∀ resource,
    (informers.obtain resource).2 = (roster.obtain (.ofResource resource)).2
  /-- To reuse an informer opens no stream and changes nothing else. -/
  reused : ∀ resource, (roster.obtain (.ofResource resource)).2.2 = false →
    (informers.obtain resource).1 = informers
  /-- To make an informer opens one stream, under a number and a token that none had before. -/
  opened : ∀ resource, (roster.obtain (.ofResource resource)).2.2 = true →
    ∃ token,
      (informers.obtain resource).1.started = informers.started ++
        [(⟨informers.client, resource.plural, informers.ns⟩,
          .start informers.started.length resource token)] ∧
      (informers.obtain resource).2.1 = informers.started.length ∧
      ∀ id, id < informers.started.length → (informers.informer id).token ≠ token
  stop : ∀ type, (informers.stop type).2 = (roster.stop type).2
  stopAll : informers.stopAll.2 = informers.types.length
  types : ∀ type, type ∈ informers.types ↔ ∃ id, roster.place type = .held id
  strict : informers.types.Pairwise fun left right =>
    left.le right = true ∧ right.le left = false
  size : informers.size = informers.types.length
  /-- What concerns one type changes no answer about another. -/
  apart : ∀ event type other, informers.concern? event = some type → other ≠ type →
    informers.SameFor other (informers.happen event)

theorem Tracked.agrees {informers : Informers η} {roster : Roster}
    (tracked : informers.Tracked roster) : informers.Agrees roster where
  find := tracked.find?
  state := tracked.state
  stopped type id held := tracked.isStopped (by rw [tracked.find?, held]; rfl)
  obtain := tracked.obtain_snd
  reused resource old := by
    rw [← tracked.obtain_snd] at old
    unfold Informers.obtain at old ⊢
    cases reused : informers.reusable? resource with
    | some id => rfl
    | none => simp [reused] at old
  opened resource isNew := by
    rw [← tracked.obtain_snd] at isNew
    unfold Informers.obtain at isNew ⊢
    cases reused : informers.reusable? resource with
    | some id => simp [reused] at isNew
    | none =>
        refine ⟨_, rfl, rfl, fun id used same => ?_⟩
        have issued := tracked.owned.issued used
        rw [same] at issued
        exact absurd issued (by simp [Tokens.issue, Tokens.issued_revoke])
  stop := tracked.stop_snd
  stopAll := size_eq informers
  types type := by
    simp only [mem_types_iff tracked.distinct, tracked.find?, Place.holder?_eq_some_iff]
  strict := strict_types tracked.distinct
  size := size_eq informers
  apart _ _ _ := tracked.sameFor

/-- After every run, the informers answer as the roster that was told of it. -/
theorem agrees_afterAll (client : ClientId) (ns : Option String) (events : List (Event η)) :
    ((empty client ns).afterAll events).Agrees
      (Roster.empty.attendAll ((empty client ns).actions events)) :=
  ((tracked_empty client ns).afterAll events).agrees

end Informers

end ClusterCache
