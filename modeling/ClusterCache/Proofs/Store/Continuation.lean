import ClusterCache.Proofs.Informer.Loop
import ClusterCache.Proofs.Informers.Continuation
import ClusterCache.Proofs.Store.Deeds

/-!
# What the store never undoes

Neither a deed nor a reaction of a listener touches a replica, brings a removed registration back
or lets a stopped informer go on. The turn of a loop does so only in that it takes an item in.
-/

namespace ClusterCache.Store

/-! ## Deeds -/

theorem continues_subscribe (store : Store) (informer : InformerId) (type : ResourceType)
    (key : Key) (listener : Listener) :
    store.informers.Continues (store.subscribe informer type key listener).1.informers :=
  Informers.continues_setHandlers store.informers informer
    (Handlers.continues_subscribe _ key listener)

theorem continues_unsubscribe (store : Store) (label : String) :
    store.informers.Continues (store.unsubscribe label).1.informers := by
  unfold unsubscribe
  split
  · exact Informers.Continues.refl _
  · split
    · exact Informers.Continues.refl _
    · exact Informers.continues_setHandlers store.informers _
        (Handlers.continues_unsubscribe _ _)

theorem informers_noteUse (store : Store) (key : Key) (informer : InformerId) :
    (store.noteUse key informer).informers = store.informers := by
  simp only [noteUse]
  split <;> split <;> rfl

theorem informers_obtainInformer (store : Store) (resource : ApiResource) :
    (store.obtainInformer resource).1.informers = (store.informers.obtain resource).1 := by
  simp only [obtainInformer]
  split <;> rfl

theorem informers_serve (store : Store) (key : Key) (resource : ApiResource) :
    (store.serve key resource).1.informers = (store.informers.obtain resource).1 := by
  rw [← informers_obtainInformer]
  exact informers_noteUse _ key _

theorem continues_serve (store : Store) (key : Key) (resource : ApiResource) :
    store.informers.Continues (store.serve key resource).1.informers := by
  rw [informers_serve]
  exact Informers.continues_obtain store.informers resource

theorem continues_perform (store : Store) (deed : Deed) :
    store.informers.Continues (store.perform deed).informers := by
  cases deed with
  | nothing => exact Informers.Continues.refl _
  | serve key resource => exact continues_serve store key resource
  | watch key resource listener type =>
      exact (continues_serve store key resource).trans (continues_subscribe _ _ type key listener)
  | forget kind resource => exact Informers.continues_stop store.informers _
  | reset => exact Informers.continues_stopAll store.informers
  | changeClient client => exact Informers.continues_changeClient store.informers client

/-! ## Listeners -/

theorem continues_react (store : Store) (own : String) (reaction : Reaction) :
    store.informers.Continues (store.react own reaction).informers := by
  cases reaction with
  | shutdown => exact Informers.continues_shutdown store.informers
  | stop type => exact Informers.continues_stop store.informers type
  | unsubscribe label => exact continues_unsubscribe store _
  | subscribe type label key =>
      simp only [react]
      split
      · exact continues_subscribe store _ type key ⟨label, []⟩
      · exact Informers.Continues.refl _

/-- Whatever every reaction keeps, several reactions keep. -/
theorem reactions_keep (keeps : Store → Store → Prop) (refl : ∀ store, keeps store store)
    (trans : ∀ {first second third}, keeps first second → keeps second third → keeps first third)
    (own : String) (reacts : ∀ store reaction, keeps store (store.react own reaction))
    (reactions : List (Trigger × Reaction)) (store : Store) :
    keeps store
      (reactions.foldl (fun (store : Store) reaction => store.react own reaction.2) store) := by
  induction reactions generalizing store with
  | nil => exact refl store
  | cons reaction rest inductionHypothesis =>
      exact trans (reacts store reaction.2) (inductionHypothesis _)

theorem continues_reactions (own : String) (reactions : List (Trigger × Reaction))
    (store : Store) :
    store.informers.Continues
      (reactions.foldl (fun (store : Store) reaction => store.react own reaction.2)
        store).informers :=
  reactions_keep (fun before after => before.informers.Continues after.informers)
    (fun _ => Informers.Continues.refl _) (fun left right => left.trans right) own
    (fun store => continues_react store own) reactions store

/-- Whatever an entry in the journal and every reaction keep, telling a listener keeps. -/
theorem tell_keeps (keeps : Store → Store → Prop) (refl : ∀ store, keeps store store)
    (trans : ∀ {first second third}, keeps first second → keeps second third → keeps first third)
    (notes : ∀ store entry, keeps store (store.enterJournal entry))
    (reacts : ∀ store own reaction, keeps store (store.react own reaction))
    (subscription : Subscription Listener) (change : Change) (store : Store) :
    keeps store (tell subscription change store) :=
  trans (notes store (.told subscription.handler.label change))
    (reactions_keep keeps refl trans _ (fun store => reacts store _) _ _)

theorem continues_tell (subscription : Subscription Listener) (change : Change)
    (store : Store) : store.informers.Continues (tell subscription change store).informers :=
  tell_keeps (fun before after => before.informers.Continues after.informers)
    (fun _ => Informers.Continues.refl _) (fun left right => left.trans right)
    (fun _ _ => Informers.Continues.refl _) continues_react subscription change store

/-- Telling listeners about changes continues. -/
theorem continues_deliver (id : InformerId) (changes : List Change) (store : Store) :
    store.informers.Continues ((surroundings id).deliver changes store).informers :=
  (surroundings id).deliver_keeps
    (fun before after => before.informers.Continues after.informers)
    (fun _ => Informers.Continues.refl _) (fun left right => Informers.Continues.trans left right)
    continues_tell changes store

/-! ## Turns -/

/-- The item that the loop of an informer takes in at its next turn. -/
def next? (store : Store) (id : InformerId) : Option StreamItem := (surroundings id).next? store

/-- The store when the loop of an informer has taken an item in and told nobody yet. -/
def takenIn (store : Store) (id : InformerId) (item : StreamItem) : Store :=
  { store with
    informers := store.informers.modify id fun informer =>
      { informer with
        inbox := informer.inbox.tail
        replica := (informer.replica.takeItem item).1 } }

/-- The changes that an item makes to the replica of an informer. -/
def changesOf (store : Store) (id : InformerId) (item : StreamItem) : List Change :=
  ((store.informers.informer id).replica.takeItem item).2

theorem lt_length_of_next? {store : Store} {id : InformerId} {item : StreamItem}
    (next : store.next? id = some item) : id < store.informers.started.length := by
  refine Nat.lt_of_not_le fun unused => ?_
  have noInformer := Informers.informer_of_le unused
  have noItem : store.next? id = none := by
    simp only [next?, Surroundings.next?, surroundings, noInformer]
    split <;> rfl
  rw [noItem] at next
  cases next

/-- The store when the loop of an informer has only taken the first item off its inbox. -/
def withoutFirst (store : Store) (id : InformerId) : Store :=
  { store with
    informers := store.informers.modify id fun _ =>
      { store.informers.informer id with
        inbox := (store.informers.informer id).inbox.tail } }

theorem informer_withoutFirst {store : Store} {id : InformerId}
    (used : id < store.informers.started.length) :
    (store.withoutFirst id).informers.informer id =
      { store.informers.informer id with
        inbox := (store.informers.informer id).inbox.tail } := by
  unfold withoutFirst
  exact Informers.informer_modify_self used _

/-- Taking an item in is done in two replacements. -/
theorem replace_withoutFirst {store : Store} {id : InformerId}
    (used : id < store.informers.started.length) (item : StreamItem) :
    (surroundings id).replace
        { (store.withoutFirst id).informers.informer id with
          replica :=
            (((store.withoutFirst id).informers.informer id).replica.takeItem item).1 }
        (store.withoutFirst id) =
      store.takenIn id item := by
  rw [informer_withoutFirst used]
  simp only [surroundings, withoutFirst, takenIn, Informers.modify, Store.mk.injEq,
    Informers.mk.injEq, true_and, and_true]
  apply List.ext_getElem?
  intro other
  rw [List.getElem?_modify, List.getElem?_modify, List.getElem?_modify]
  by_cases same : id = other
  · subst same
    simp [Informers.informer, used]
  · simp [same]

/-- A turn that takes an item in puts it into the replica and then tells what changed. -/
theorem turn_eq_deliver {store : Store} {id : InformerId} {item : StreamItem}
    (next : store.next? id = some item) :
    (surroundings id).turn store =
      (surroundings id).deliver (store.changesOf id item) (store.takenIn id item) := by
  have used := lt_length_of_next? next
  rw [(surroundings id).turn_of_next?_some next, ← replace_withoutFirst used item]
  have changes : ((store.withoutFirst id).informers.informer id).replica =
      (store.informers.informer id).replica := by
    rw [informer_withoutFirst used]
  unfold changesOf
  rw [← changes]
  rfl

/-- What such a turn tells is what the delivery tells. -/
theorem told_eq_deliver {store : Store} {id : InformerId} {item : StreamItem}
    (next : store.next? id = some item) :
    (surroundings id).told store =
      ((surroundings id).logged.deliver (store.changesOf id item)
        (store.takenIn id item, [])).2 := by
  have used := lt_length_of_next? next
  have changes : ((store.withoutFirst id).informers.informer id).replica =
      (store.informers.informer id).replica := by
    rw [informer_withoutFirst used]
  unfold Surroundings.told
  rw [(surroundings id).turn_logged_of_next?_some next, ← replace_withoutFirst used item]
  unfold changesOf
  rw [← changes]
  rfl

/-- A turn that takes nothing in leaves what no operation undoes. -/
theorem continues_turn_of_none {store : Store} {id : InformerId}
    (nothing : store.next? id = none) :
    store.informers.Continues ((surroundings id).turn store).informers := by
  rcases (surroundings id).turn_of_next?_none nothing with same | stopped
  · rw [same]
    exact Informers.Continues.refl _
  · rw [stopped]
    change store.informers.Continues (store.informers.modify id fun _ =>
      { store.informers.informer id with running := false })
    exact Informers.continues_modify store.informers id rfl rfl rfl (Handlers.Continues.refl _)

/-- Taking an item in touches neither registrations nor tokens. -/
theorem persists_takenIn (store : Store) (id : InformerId) (item : StreamItem) :
    store.informers.Persists (store.takenIn id item).informers := by
  simp only [takenIn]
  refine Informers.persists_modify store.informers id ?_ ?_ ?_
  · rfl
  · rfl
  · exact Handlers.Continues.refl _

/-- No turn brings a removed registration back or lets a stopped informer go on. -/
theorem persists_turn (store : Store) (id : InformerId) :
    store.informers.Persists ((surroundings id).turn store).informers := by
  cases next : store.next? id with
  | none => exact (continues_turn_of_none next).toPersists
  | some item =>
      rw [turn_eq_deliver next]
      exact (persists_takenIn store id item).trans (continues_deliver id _ _).toPersists

/-! ## Waiters -/

/-- A waiter changes nothing but which waiters there are and what is recorded as loaded. -/
theorem wake_eq (store : Store) (waiter : Waiter) :
    ∃ waiters loading, store.wake waiter = { store with waiters, loading } := by
  unfold wake
  simp only
  split
  · exact ⟨store.waiters, store.loading, rfl⟩
  · exact ⟨_, _, rfl⟩

theorem informers_wake (store : Store) (waiter : Waiter) :
    (store.wake waiter).informers = store.informers := by
  obtain ⟨waiters, loading, same⟩ := wake_eq store waiter
  rw [same]

theorem holdings_wake_of_stopped {store : Store} {waiter : Waiter}
    (stopped : store.informers.isStopped waiter.informer = true) :
    (store.wake waiter).holdings =
      { store.holdings with
        waiters := store.waiters.filter fun other => other.id ≠ waiter.id } := by
  simp [wake, Informer.syncVerdict?, stopped, holdings]

theorem holdings_wake_of_synced {store : Store} {waiter : Waiter}
    (going : store.informers.isStopped waiter.informer = false)
    (synced : (store.informers.informer waiter.informer).replica.synced = true) :
    (store.wake waiter).holdings =
      { store.holdings with
        waiters := store.waiters.filter fun other => other.id ≠ waiter.id
        loading := store.loading.record waiter.scope true } := by
  simp [wake, Informer.syncVerdict?, going, synced, Loading.confirm, holdings]

end ClusterCache.Store
