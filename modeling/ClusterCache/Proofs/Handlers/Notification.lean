import ClusterCache.Proofs.Handlers.Registration
import Mathlib.Data.List.Induction

/-!
# Notifying handlers that act on their set

A handler that is told about a change may register handlers, remove any registration and clear the
set. Main statement: none of this changes who is told about that change. Those are told who were
registered when it arrived and whose key fits, each once and in the order of registration; what they
do to the set takes effect in the order in which they did it; and whoever they register is first
told about the next change.
-/

namespace ClusterCache.Handlers

variable {σ η : Type}

/-! ## Editing a set -/

inductive Edit (η : Type)
  | subscribe (key : Key) (handler : η)
  | unsubscribe (id : WatchId)
  | clear
deriving Repr

def Edit.removes (id : WatchId) : Edit η → Bool
  | subscribe _ _ => false
  | unsubscribe other => other = id
  | clear => true

def edit (handlers : Handlers η) : Edit η → Handlers η
  | .subscribe key handler => (handlers.subscribe key handler).1
  | .unsubscribe id => (handlers.unsubscribe id).1
  | .clear => handlers.clear

def editAll (handlers : Handlers η) (edits : List (Edit η)) : Handlers η :=
  edits.foldl edit handlers

@[simp] theorem editAll_nil (handlers : Handlers η) : handlers.editAll [] = handlers := rfl

theorem editAll_append (handlers : Handlers η) (edits more : List (Edit η)) :
    handlers.editAll (edits ++ more) = (handlers.editAll edits).editAll more :=
  List.foldl_append

theorem editAll_concat (handlers : Handlers η) (edits : List (Edit η)) (last : Edit η) :
    handlers.editAll (edits ++ [last]) = (handlers.editAll edits).edit last :=
  editAll_append handlers edits [last]

theorem continues_edit (handlers : Handlers η) (edit : Edit η) :
    handlers.Continues (handlers.edit edit) := by
  cases edit with
  | subscribe key handler => exact continues_subscribe handlers key handler
  | unsubscribe id => exact continues_unsubscribe handlers id
  | clear => exact continues_of_sublist (List.nil_sublist _)

theorem continues_editAll (handlers : Handlers η) (edits : List (Edit η)) :
    handlers.Continues (handlers.editAll edits) := by
  induction edits using List.reverseRecOn with
  | nil => exact Continues.refl handlers
  | append_singleton edits last inductionHypothesis =>
      rw [editAll_concat]
      exact inductionHypothesis.trans (continues_edit _ last)

theorem numbered_editAll (owner : Nat) (edits : List (Edit η)) :
    ((empty owner : Handlers η).editAll edits).Numbered :=
  (continues_editAll _ edits).numbered (numbered_empty owner)

/-! ## Which registrations stand -/

/-- The registration is in the set. -/
def Holds (handlers : Handlers η) (id : WatchId) : Prop :=
  ∃ entry ∈ handlers.subscriptions, entry.id = id

/-- The registration was made, and nothing that was done since removes it. -/
def Stands (owner : Nat) (edits : List (Edit η)) (id : WatchId) : Prop :=
  ∃ before key handler after, edits = before ++ .subscribe key handler :: after ∧
    (((empty owner).editAll before).subscribe key handler).2 = id ∧
    ∀ edit ∈ after, edit.removes id = false

theorem holds_subscribe_iff {handlers : Handlers η} {key : Key} {handler : η} {id : WatchId} :
    (handlers.subscribe key handler).1.Holds id ↔
      handlers.Holds id ∨ (handlers.subscribe key handler).2 = id := by
  simp [Holds, subscribe, or_and_right, exists_or]

theorem holds_unsubscribe_iff {handlers : Handlers η} {id other : WatchId} :
    (handlers.unsubscribe other).1.Holds id ↔ handlers.Holds id ∧ other ≠ id := by
  simp only [Holds, unsubscribe, List.mem_filter, decide_eq_true_eq]
  constructor
  · rintro ⟨entry, ⟨member, spared⟩, rfl⟩
    exact ⟨⟨entry, member, rfl⟩, spared.symm⟩
  · rintro ⟨⟨entry, member, rfl⟩, spared⟩
    exact ⟨entry, ⟨member, spared.symm⟩, rfl⟩

theorem not_holds_clear (handlers : Handlers η) (id : WatchId) : ¬ handlers.clear.Holds id := by
  simp [Holds]

theorem stands_concat_iff {owner : Nat} {edits : List (Edit η)} {last : Edit η} {id : WatchId} :
    Stands owner (edits ++ [last]) id ↔
      (∃ key handler, last = .subscribe key handler ∧
          (((empty owner).editAll edits).subscribe key handler).2 = id) ∨
        (Stands owner edits id ∧ last.removes id = false) := by
  constructor
  · rintro ⟨before, key, handler, after, split, numbered, spared⟩
    -- The registration was made by the last edit, or the last edit spares it.
    rcases List.eq_nil_or_concat' after with isLast | ⟨between, final, isConcat⟩
    · subst isLast
      obtain ⟨rfl, same⟩ := List.append_inj' split rfl
      exact Or.inl ⟨key, handler, List.singleton_inj.1 same, numbered⟩
    · subst isConcat
      rw [← List.cons_append, ← List.append_assoc] at split
      obtain ⟨earlier, same⟩ := List.append_inj' split rfl
      obtain rfl := List.singleton_inj.1 same
      have sparedBetween : ∀ edit ∈ between, edit.removes id = false := fun edit member =>
        spared edit (List.mem_append_left _ member)
      exact Or.inr ⟨⟨before, key, handler, between, earlier, numbered, sparedBetween⟩,
        spared last (List.mem_append_right _ List.mem_cons_self)⟩
  · rintro (⟨key, handler, rfl, numbered⟩ | ⟨⟨before, key, handler, after, rfl, numbered, spared⟩,
      sparedLast⟩)
    · exact ⟨edits, key, handler, [], rfl, numbered, fun edit member =>
        absurd member List.not_mem_nil⟩
    · refine ⟨before, key, handler, after ++ [last], by simp, numbered, fun edit member => ?_⟩
      rcases List.mem_append.1 member with inAfter | isLast
      · exact spared edit inAfter
      · exact List.mem_singleton.1 isLast ▸ sparedLast

/-- The registrations in the set are those that stand. -/
theorem holds_editAll_iff {owner : Nat} {edits : List (Edit η)} {id : WatchId} :
    ((empty owner).editAll edits).Holds id ↔ Stands owner edits id := by
  induction edits using List.reverseRecOn with
  | nil => simp [Holds, Stands, empty]
  | append_singleton edits last inductionHypothesis =>
      rw [editAll_concat, stands_concat_iff, ← inductionHypothesis]
      cases last with
      | subscribe key handler =>
          rw [edit, holds_subscribe_iff]
          simp [Edit.removes, or_comm]
      | unsubscribe other =>
          rw [edit, holds_unsubscribe_iff]
          simp [Edit.removes]
      | clear => simp [edit, not_holds_clear, Edit.removes]

/-- Removing a registration answers whether it stands, and removes it alone. -/
structure Unsubscribes (owner : Nat) (edits : List (Edit η)) (id : WatchId) : Prop where
  answer : (((empty owner).editAll edits).unsubscribe id).2 = true ↔
    ((empty owner).editAll edits).Holds id
  stands : ((empty owner).editAll edits).Holds id ↔ Stands owner edits id
  removed : ∀ before entry after, entry.id = id →
    ((empty owner).editAll edits).subscriptions = before ++ entry :: after →
    (((empty owner).editAll edits).unsubscribe id).1 =
      { (empty owner).editAll edits with subscriptions := before ++ after }
  unchanged : ¬ ((empty owner).editAll edits).Holds id →
    (((empty owner).editAll edits).unsubscribe id).1 = (empty owner).editAll edits

theorem unsubscribe_eq_of_split {handlers : Handlers η} (numbered : handlers.Numbered)
    {before after : List (Subscription η)} {entry : Subscription η}
    (split : handlers.subscriptions = before ++ entry :: after) :
    (handlers.unsubscribe entry.id).1 = { handlers with subscriptions := before ++ after } := by
  have distinct := numbered.distinct
  rw [split, List.map_append, List.map_cons, List.nodup_middle, List.nodup_cons] at distinct
  have spared : ∀ other ∈ before ++ after, other.id ≠ entry.id := fun other member same =>
    distinct.1 (List.map_append ▸ same ▸ List.mem_map_of_mem member)
  have sparedBefore : before.filter (fun other => other.id ≠ entry.id) = before :=
    List.filter_eq_self.2 fun other member =>
      decide_eq_true (spared other (List.mem_append_left _ member))
  have sparedAfter : after.filter (fun other => other.id ≠ entry.id) = after :=
    List.filter_eq_self.2 fun other member =>
      decide_eq_true (spared other (List.mem_append_right _ member))
  simp only [unsubscribe, split, List.filter_append, List.filter_cons, sparedBefore, sparedAfter]
  simp

theorem unsubscribe_eq_self {handlers : Handlers η} {id : WatchId} (absent : ¬ handlers.Holds id) :
    (handlers.unsubscribe id).1 = handlers := by
  have spared : handlers.subscriptions.filter (fun entry => entry.id ≠ id) =
      handlers.subscriptions :=
    List.filter_eq_self.2 fun entry member =>
      decide_eq_true fun same => absent ⟨entry, member, same⟩
  rw [unsubscribe, spared]

theorem unsubscribes (owner : Nat) (edits : List (Edit η)) (id : WatchId) :
    Unsubscribes owner edits id where
  answer := by simp [unsubscribe, Holds]
  stands := holds_editAll_iff
  removed before entry after same split := by
    subst same
    exact unsubscribe_eq_of_split (numbered_editAll owner edits) split
  unchanged := unsubscribe_eq_self

/-! ## Handlers at work -/

/-- The callbacks of a handler. `ρ` is what one of them comes to. -/
structure Callbacks (ρ : Type) where
  onAdd : Object → ρ
  onUpdate : Object → Object → ρ
  onDelete : Object → ρ

def Callbacks.on {ρ : Type} (callbacks : Callbacks ρ) : Change → ρ
  | .added object => callbacks.onAdd object
  | .updated old new => callbacks.onUpdate old new
  | .deleted object => callbacks.onDelete object

/-- Which callback ran, and on what. -/
inductive Called
  | onAdd (object : Object)
  | onUpdate (old new : Object)
  | onDelete (object : Object)

/-- One callback that ran, for whom, and what it did to the set. -/
structure Call (η : Type) where
  registration : Subscription η
  called : Called
  edits : List (Edit η)

/-- What the handlers do. A callback sees a common state, of any type, and the set. From these it
can tell beforehand how the set will answer, so that all it is going to do is decided with them. -/
abbrev Repertoire (σ η : Type) := η → Callbacks (σ → Handlers η → σ × List (Edit η))

structure Workplace (σ η : Type) where
  state : σ
  handlers : Handlers η
  /-- The callbacks that ran, in order. -/
  calls : List (Call η)
  /-- What was done to the set, in order. -/
  edits : List (Edit η)

namespace Workplace

def start (state : σ) (owner : Nat) : Workplace σ η := ⟨state, empty owner, [], []⟩

def run (registration : Subscription η) (called : Called)
    (callback : σ → Handlers η → σ × List (Edit η)) (place : Workplace σ η) : Workplace σ η :=
  let (state, edits) := callback place.state place.handlers
  ⟨state, place.handlers.editAll edits, place.calls ++ [⟨registration, called, edits⟩],
    place.edits ++ edits⟩

variable (repertoire : Repertoire σ η)

def callbacks (registration : Subscription η) : Callbacks (Workplace σ η → Workplace σ η) where
  onAdd object :=
    run registration (.onAdd object) ((repertoire registration.handler).onAdd object)
  onUpdate old new :=
    run registration (.onUpdate old new) ((repertoire registration.handler).onUpdate old new)
  onDelete object :=
    run registration (.onDelete object) ((repertoire registration.handler).onDelete object)

def notify (change : Change) (place : Workplace σ η) : Workplace σ η :=
  place.handlers.notify (fun registration => (callbacks repertoire registration).on) change place

/-- What happens at a workplace: somebody edits the set, or the handlers are notified. -/
inductive Step (η : Type)
  | edit (edit : Edit η)
  | notify (change : Change)

def step (place : Workplace σ η) : Step η → Workplace σ η
  | .edit edit =>
      { place with handlers := place.handlers.edit edit, edits := place.edits ++ [edit] }
  | .notify change => place.notify repertoire change

def afterSteps (state : σ) (owner : Nat) (steps : List (Step η)) : Workplace σ η :=
  steps.foldl (step repertoire) (start state owner)

end Workplace

/-- The callback of the change's own kind. -/
def Called.ofChange : Change → Called
  | .added object => .onAdd object
  | .updated old new => .onUpdate old new
  | .deleted object => .onDelete object

namespace Workplace

variable {repertoire : Repertoire σ η}

theorem callbacks_on (registration : Subscription η) (change : Change) :
    (callbacks repertoire registration).on change =
      run registration (Called.ofChange change) ((repertoire registration.handler).on change) := by
  cases change <;> rfl

/-! ## One notification -/

/-- The calls led from one workplace to the other. -/
structure Calls (before after : Workplace σ η) (calls : List (Call η)) : Prop where
  logged : after.calls = before.calls ++ calls
  handlers : after.handlers = before.handlers.editAll (calls.flatMap Call.edits)
  edits : after.edits = before.edits ++ calls.flatMap Call.edits

theorem Calls.refl (place : Workplace σ η) : Calls place place [] :=
  ⟨by simp, by simp, by simp⟩

theorem Calls.trans {first second third : Workplace σ η} {calls more : List (Call η)}
    (left : Calls first second calls) (right : Calls second third more) :
    Calls first third (calls ++ more) where
  logged := by rw [right.logged, left.logged, List.append_assoc]
  handlers := by rw [right.handlers, left.handlers, List.flatMap_append, editAll_append]
  edits := by rw [right.edits, left.edits, List.flatMap_append, List.append_assoc]

theorem calls_run (registration : Subscription η) (called : Called)
    (callback : σ → Handlers η → σ × List (Edit η)) (place : Workplace σ η) :
    Calls place (run registration called callback place)
      [⟨registration, called, (callback place.state place.handlers).2⟩] :=
  ⟨rfl, by simp [run], by simp [run]⟩

theorem calls_foldl (repertoire : Repertoire σ η) (registrations : List (Subscription η))
    (change : Change) (place : Workplace σ η) :
    ∃ calls, Calls place (registrations.foldl (fun place registration =>
        (callbacks repertoire registration).on change place) place) calls ∧
      calls.map Call.registration = registrations ∧
      ∀ call ∈ calls, call.called = Called.ofChange change := by
  induction registrations using List.reverseRecOn with
  | nil => exact ⟨[], Calls.refl place, rfl, fun _ member => absurd member List.not_mem_nil⟩
  | append_singleton registrations last inductionHypothesis =>
      obtain ⟨calls, led, called, own⟩ := inductionHypothesis
      rw [List.foldl_append, List.foldl_cons, List.foldl_nil, callbacks_on]
      refine ⟨_, led.trans (calls_run last _ _ _), by simp [called], fun call member => ?_⟩
      rcases List.mem_append.1 member with earlier | isLast
      · exact own call earlier
      · rw [List.mem_singleton.1 isLast]

/-- The calls of one notification are made on the set as it was when the change arrived. -/
structure Snapshot (before after : Workplace σ η) (change : Change) (calls : List (Call η)) :
    Prop where
  logged : after.calls = before.calls ++ calls
  registrations : calls.map Call.registration =
    before.handlers.subscriptions.filter fun entry => entry.key.isMatch change.object
  once : (calls.map fun call => call.registration.id).Nodup
  own : ∀ call ∈ calls, call.called = Called.ofChange change
  edited : after.handlers = before.handlers.editAll (calls.flatMap Call.edits)
  newcomers : ∀ entry ∈ after.handlers.subscriptions, entry ∉ before.handlers.subscriptions →
    entry.id ∉ calls.map fun call => call.registration.id

theorem snapshot_notify (repertoire : Repertoire σ η) {place : Workplace σ η}
    (numbered : place.handlers.Numbered) (change : Change) :
    ∃ calls, Calls place (place.notify repertoire change) calls ∧
      Snapshot place (place.notify repertoire change) change calls := by
  obtain ⟨calls, led, registrations, own⟩ :=
    calls_foldl repertoire (place.handlers.matching change) change place
  have ids : calls.map (fun call => call.registration.id) =
      (place.handlers.matching change).map Subscription.id := by
    rw [← registrations, List.map_map]
    rfl
  refine ⟨calls, led, led.logged, registrations, ?_, own, led.handlers, ?_⟩
  · rw [ids]
    exact numbered.distinct.sublist (List.filter_sublist.map _)
  · intro entry member isNew isCalled
    rw [ids] at isCalled
    -- Whoever is called bears a number that was given out before, and no edit gives it out again.
    obtain ⟨called, inMatching, same⟩ := List.mem_map.1 isCalled
    have known : called ∈ place.handlers.subscriptions := (List.mem_filter.1 inMatching).1
    have old : entry.id.serial < place.handlers.issued := same ▸ numbered.below called known
    have continued := continues_editAll place.handlers (calls.flatMap Call.edits)
    exact isNew (continued.kept entry (led.handlers ▸ member) old)

/-! ## Any number of steps -/

def Edited (owner : Nat) (place : Workplace σ η) : Prop :=
  place.handlers = (empty owner).editAll place.edits

theorem Edited.numbered {owner : Nat} {place : Workplace σ η} (edited : place.Edited owner) :
    place.handlers.Numbered := by
  rw [Edited] at edited
  exact edited ▸ numbered_editAll owner place.edits

theorem Calls.edited {owner : Nat} {before after : Workplace σ η} {calls : List (Call η)}
    (led : Calls before after calls) (edited : before.Edited owner) : after.Edited owner := by
  rw [Edited] at edited ⊢
  rw [led.handlers, led.edits, editAll_append, edited]

theorem edited_step {owner : Nat} {place : Workplace σ η} (edited : place.Edited owner)
    (step : Step η) : (place.step repertoire step).Edited owner := by
  cases step with
  | edit edit =>
      rw [Edited] at edited ⊢
      rw [Workplace.step, editAll_concat, edited]
  | notify change =>
      obtain ⟨calls, led, _⟩ := snapshot_notify repertoire edited.numbered change
      exact led.edited edited

theorem edited_afterSteps (state : σ) (owner : Nat) (steps : List (Step η)) :
    (afterSteps repertoire state owner steps).Edited owner := by
  induction steps using List.reverseRecOn with
  | nil => rfl
  | append_singleton steps last inductionHypothesis =>
      rw [afterSteps, List.foldl_append]
      exact edited_step inductionHypothesis last

/-- Whatever the handlers do while they are told and whatever was done before, a change goes to the
set as it was when the change arrived; whom its handlers register is first told about the next
change. After any edits, removing a registration answers whether it stands and removes it alone. -/
theorem notify_snapshot (repertoire : Repertoire σ η) (state : σ) (owner : Nat)
    (steps : List (Step η)) (change : Change) :
    let before := afterSteps repertoire state owner steps
    let after := before.step repertoire (.notify change)
    (∃ calls, Snapshot before after change calls ∧
      ∀ next, ∃ nextCalls, Snapshot after (after.step repertoire (.notify next)) next nextCalls ∧
        ∀ entry ∈ after.handlers.subscriptions, entry ∉ before.handlers.subscriptions →
          entry.key.isMatch next.object = true → entry ∈ nextCalls.map Call.registration) ∧
      before.handlers = (empty owner).editAll before.edits ∧
      ∀ (edits : List (Edit η)) (id : WatchId), Unsubscribes owner edits id := by
  intro before after
  have edited : before.Edited owner := edited_afterSteps state owner steps
  obtain ⟨calls, led, snapshot⟩ :=
    snapshot_notify repertoire edited.numbered change
  refine ⟨⟨calls, snapshot, fun next => ?_⟩, edited, unsubscribes owner⟩
  obtain ⟨nextCalls, _, nextSnapshot⟩ :=
    snapshot_notify repertoire (led.edited edited).numbered next
  refine ⟨nextCalls, nextSnapshot, fun entry member _ fits => ?_⟩
  rw [nextSnapshot.registrations]
  exact List.mem_filter.2 ⟨member, fits⟩

/-- The first handler removes the second and registers a third when an object is added; the others
do nothing. -/
def meddling : Repertoire Unit Nat := fun handler =>
  let idle : Unit → Handlers Nat → Unit × List (Edit Nat) := fun state _ => (state, [])
  { onAdd := fun _ state _ =>
      (state, if handler = 0 then [.unsubscribe ⟨0, 1⟩, .subscribe default 2] else [])
    onUpdate := fun _ _ => idle
    onDelete := fun _ => idle }

example : ((afterSteps meddling () 0 [.edit (.subscribe default 0), .edit (.subscribe default 1),
    .notify (.added default), .notify (.deleted default)]).calls.map fun call =>
      call.registration.handler) = [0, 1, 0, 2] := rfl

end Workplace

end ClusterCache.Handlers
