import ClusterCache.Proofs.Informers.Roster
import ClusterCache.Proofs.System.Moves

/-!
# The informers of a system as a roster

A roster is compared with informers that are commanded one by one, and whose handlers leave them
alone. Here that comparison is carried to whole systems. What a system does to its informers is a
run of commands, items and turns; that listeners stop informers or come and go while they are told
about a change is part of that run. Main statement: the informers of every reached system came out
of such a run, and give the answers of the roster that was told of it (`agrees_with_roster`).

No other module rests on this one. It shows that the commands, items and turns of
`Proofs/Informers/Roster` leave out nothing that calls, waiters and listeners do to informers.
-/

namespace ClusterCache

namespace Informers

variable {η : Type}

/-- One state of the informers leads to another by a run. -/
def Leads (before after : Informers η) : Prop := ∃ events, after = before.afterAll events

theorem Leads.refl (informers : Informers η) : informers.Leads informers := ⟨[], rfl⟩

theorem Leads.trans {first second third : Informers η} (left : first.Leads second)
    (right : second.Leads third) : first.Leads third := by
  obtain ⟨earlier, rfl⟩ := left
  obtain ⟨later, rfl⟩ := right
  exact ⟨earlier ++ later, List.foldl_append.symm⟩

theorem leads_happen (informers : Informers η) (event : Event η) :
    informers.Leads (informers.happen event) := ⟨[event], rfl⟩

end Informers

namespace Store

open Informers

/-! ## Listeners -/

theorem leads_subscribe (store : Store) (informer : InformerId) (type : ResourceType) (key : Key)
    (listener : Listener) :
    store.informers.Leads (store.subscribe informer type key listener).1.informers :=
  leads_happen store.informers (.register informer fun _ =>
    ((store.informers.informer informer).handlers.subscribe key listener).1)

theorem leads_unsubscribe (store : Store) (label : String) :
    store.informers.Leads (store.unsubscribe label).1.informers := by
  unfold unsubscribe
  split
  · exact Leads.refl _
  · split
    · exact Leads.refl _
    · exact leads_happen store.informers (.register _ fun _ => _)

theorem leads_react (store : Store) (own : String) (reaction : Reaction) :
    store.informers.Leads (store.react own reaction).informers := by
  cases reaction with
  | shutdown => exact leads_happen store.informers (.command .shutdown)
  | stop type => exact leads_happen store.informers (.command (.stop type))
  | unsubscribe label => exact leads_unsubscribe store _
  | subscribe type label key =>
      simp only [react]
      split
      · exact leads_subscribe store _ type key ⟨label, []⟩
      · exact Leads.refl _

theorem leads_tell (subscription : Subscription Listener) (change : Change) (store : Store) :
    store.informers.Leads (tell subscription change store).informers :=
  tell_keeps (fun before after => before.informers.Leads after.informers)
    (fun _ => Leads.refl _) (fun left right => left.trans right) (fun _ _ => Leads.refl _)
    leads_react subscription change store

/-! ## Loops and deeds -/

/-- A turn of a loop is a turn of it among the informers, and what its listeners do thereupon. -/
theorem leads_turn (store : Store) (id : InformerId) :
    (store.informers.happen (.turn id)).Leads ((surroundings id).turn store).informers := by
  cases next : store.next? id with
  | some item =>
      have turned : store.informers.happen (.turn id) = (store.takenIn id item).informers :=
        turn_of_some next
      rw [turn_eq_deliver next, turned]
      exact (surroundings id).deliver_keeps
        (fun before after => before.informers.Leads after.informers) (fun _ => Leads.refl _)
        (fun left right => left.trans right) leads_tell _ _
  | none =>
      have informersNext : (loop id).next? store.informers = none := next
      have turned : ((surroundings id).turn store).informers = (loop id).turn store.informers := by
        by_cases running : (store.informers.informer id).running = true
        · by_cases cancelled : store.informers.isStopped id = true
          · simp [Surroundings.turn, surroundings, loop, running, cancelled]
          · cases inbox : (store.informers.informer id).inbox with
            | nil =>
                by_cases ended : (store.informers.informer id).ended = true
                · simp [Surroundings.turn, surroundings, loop, running, cancelled, inbox, ended]
                · simp [Surroundings.turn, surroundings, loop, running, cancelled, inbox, ended]
            | cons item rest =>
                simp [Surroundings.next?, loop, running, cancelled, inbox] at informersNext
        · simp [Surroundings.turn, surroundings, loop, running]
      rw [turned]
      exact Leads.refl _

theorem leads_serve (store : Store) (key : Key) (resource : ApiResource) :
    store.informers.Leads (store.serve key resource).1.informers := by
  rw [informers_serve]
  exact leads_happen store.informers (.command (.obtain resource))

theorem leads_perform (store : Store) (deed : Deed) :
    store.informers.Leads (store.perform deed).informers := by
  cases deed with
  | nothing => exact Leads.refl _
  | serve key resource => exact leads_serve store key resource
  | watch key resource listener type =>
      exact (leads_serve store key resource).trans (leads_subscribe _ _ type key listener)
  | forget kind resource =>
      exact leads_happen store.informers (.command (.stop (.ofResource resource)))
  | reset => exact leads_happen store.informers (.command .stopAll)
  | changeClient client => exact leads_happen store.informers (.command (.changeClient client))

end Store

namespace System

open Informers

/-- Every move does to the informers what a run of events does. -/
theorem leads_apply (system : System) (move : Move) :
    system.store.informers.Leads (system.apply move).store.informers := by
  by_cases isCall : move.isCall = true
  · rw [informers_apply isCall]
    exact Store.leads_perform system.store _
  · cases move with
    | send id item => exact leads_happen system.store.informers (.send id item)
    | endStream id => exact leads_happen system.store.informers (.endStream id)
    | turn id =>
        exact (leads_happen system.store.informers (.turn id)).trans
          (Store.leads_turn system.store id)
    | wake waiter =>
        simp only [apply, modify]
        split
        · rw [Store.informers_wake]
          exact Leads.refl _
        · exact Leads.refl _
    | shutdown => exact leads_happen system.store.informers (.command .shutdown)
    | begin operation | enter call | takeLock call | answer call answer | giveUp call =>
        exact absurd rfl isCall
    | _ => exact Leads.refl _

theorem leads_run (system : System) (moves : List Move) :
    system.store.informers.Leads (system.run moves).store.informers := by
  induction moves generalizing system with
  | nil => exact Leads.refl _
  | cons move rest inductionHypothesis =>
      exact (leads_apply system move).trans (inductionHypothesis _)

/-- The informers of every reached system are those of a run of events, and give the answers of the
roster that was told of it. -/
theorem agrees_with_roster (config : StoreConfig) (client : ClientId) (moves : List Move) :
    ∃ events : List (Event Listener),
      ((start config client).run moves).store.informers =
        (Informers.empty client config.ns).afterAll events ∧
      ((start config client).run moves).store.informers.Agrees
        (Roster.empty.attendAll ((Informers.empty client config.ns).actions events)) := by
  obtain ⟨events, reached⟩ := leads_run (start config client) moves
  refine ⟨events, reached, ?_⟩
  rw [reached]
  exact ((tracked_empty client config.ns).afterAll events).agrees

end System

end ClusterCache
