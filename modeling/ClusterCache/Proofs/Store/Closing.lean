import ClusterCache.Proofs.Scopes.Records
import ClusterCache.Proofs.Store.Cancellation
import ClusterCache.Proofs.Store.Loops
import ClusterCache.Proofs.Store.Reading
import ClusterCache.Proofs.Store.Steps

/-!
# A store that was shut down

A shutdown cancels every token, those that are issued later too, and nothing brings a token back.
So whoever asks a store that was shut down is served by an informer that has just been started, is
stopped already and never gets its first list: he is returned nothing, and his scope is loading,
whatever was recorded about it before. This holds from the moment at which the shutdown is asked
for, even by a listener that is being told about a change.
-/

namespace ClusterCache

namespace Informers

variable {η : Type} {informers before after : Informers η}

/-- Every token is cancelled, whether it was issued already or not. -/
def Closed (informers : Informers η) : Prop :=
  ∀ token, informers.tokens.isCancelled token = true

theorem closed_shutdown (informers : Informers η) : informers.shutdown.Closed :=
  fun _ => Tokens.isCancelled_iff.2 (Or.inl rfl)

theorem Closed.isStopped (closed : informers.Closed) (id : InformerId) :
    informers.isStopped id = true := closed _

theorem Closed.of_persists (closed : before.Closed) (persists : before.Persists after) :
    after.Closed := fun token => persists.tokens token (closed token)

/-- No informer is reused, and the one that is started has nothing. -/
theorem Closed.replica_obtain (closed : informers.Closed) (resource : ApiResource) :
    ((informers.obtain resource).1.informer (informers.obtain resource).2.1).replica =
      Replica.empty := by
  have notReused : informers.reusable? resource = none := by
    simp [Informers.reusable?, closed.isStopped]
  rw [Informers.obtain, notReused]
  exact congrArg Informer.replica (informer_start_self informers resource)

end Informers

namespace Loading

/-- Whatever is recorded as loaded afterwards was so before. -/
def LoadsNothing (before after : Loading) : Prop :=
  ∀ text entry, after.Holds text entry → entry.loaded = true → before.Holds text entry

theorem LoadsNothing.refl (loading : Loading) : loading.LoadsNothing loading :=
  fun _ _ holds _ => holds

theorem loadsNothing_record (loading : Loading) (scope : Key) :
    loading.LoadsNothing (loading.record scope false) := by
  intro text entry holds loaded
  rcases holds_of_record holds with ⟨_, rfl⟩ | ⟨before, _⟩
  · cases loaded
  · exact before

end Loading

theorem Replica.list_empty (key : Key) : Replica.empty.list key = [] := by
  simp [Replica.list, Replica.empty, Table.empty]

/-- The listener shuts the store down when it is told about the change. -/
def Listener.ShutsDown (listener : Listener) (change : Change) : Prop :=
  ∃ trigger, (trigger, .shutdown) ∈ listener.reactions ∧ trigger.fires change = true

namespace Store

variable {store : Store}

/-! ## Shutting down -/

/-- A listener that shuts the store down closes it, whatever else it does. -/
theorem closed_tell {subscription : Subscription Listener} {change : Change}
    (shutsDown : subscription.handler.ShutsDown change) (store : Store) :
    (tell subscription change store).informers.Closed := by
  obtain ⟨trigger, reacts, fires⟩ := shutsDown
  have due : (trigger, .shutdown) ∈ subscription.handler.reactions.filter
      fun reaction => reaction.1.fires change := List.mem_filter.2 ⟨reacts, fires⟩
  obtain ⟨before, after, split⟩ := List.append_of_mem due
  -- Whatever is done before the shutdown and after it, the tokens stay cancelled.
  have closedThen : ∀ store : Store,
      (store.react subscription.handler.label .shutdown).informers.Closed :=
    fun store => Informers.closed_shutdown store.informers
  rw [tell, split, List.foldl_append, List.foldl_cons]
  exact (closedThen _).of_persists (continues_reactions _ after _).toPersists

theorem continues_callEach (id : InformerId) (change : Change)
    (entries : List (Subscription Listener)) (store : Store) :
    store.informers.Continues ((surroundings id).callEach change entries store).informers := by
  induction entries generalizing store with
  | nil => exact Informers.Continues.refl _
  | cons entry rest inductionHypothesis =>
      exact (continues_tell entry change store).trans (inductionHypothesis _)

theorem closed_afterTelling {id : InformerId} {telling : Telling Store}
    {entry : Subscription Listener} (told : entry ∈ (surroundings id).audience telling)
    (shutsDown : entry.handler.ShutsDown telling.change) :
    ((surroundings id).afterTelling telling).informers.Closed := by
  obtain ⟨called, remaining, split⟩ := List.append_of_mem told
  rw [Surroundings.afterTelling, split, Surroundings.callEach, List.foldl_append,
    List.foldl_cons]
  exact (closed_tell shutsDown _).of_persists
    (continues_callEach id telling.change remaining _).toPersists

/-! ## Serving -/

theorem next?_of_closed (closed : store.informers.Closed) (id : InformerId) :
    store.next? id = none :=
  (surroundings id).next?_of_cancelled (closed.isStopped id)

theorem replica_serve_of_closed (closed : store.informers.Closed) (key : Key)
    (resource : ApiResource) :
    ((store.serve key resource).1.informers.informer (store.serve key resource).2).replica =
      Replica.empty := by
  rw [informers_serve]
  exact closed.replica_obtain resource

theorem loading_noteUse (store : Store) (key : Key) (id : InformerId) :
    (store.noteUse key id).loading =
      if !(store.informers.informer id).replica.synced && store.loading.isLoaded key.scope then
        store.loading.record key.scope false
      else store.loading := by
  simp only [noteUse]
  split <;> split <;> rfl

theorem isLoaded_noteUse {id : InformerId}
    (unsynced : (store.informers.informer id).replica.synced = false) (key : Key) :
    (store.noteUse key id).loading.isLoaded key.scope = false := by
  rw [loading_noteUse, unsynced]
  -- The scope is loading already, or it is recorded so now.
  cases loaded : store.loading.isLoaded key.scope with
  | true => exact Loading.isLoaded_record_self store.loading key.scope false
  | false => exact loaded

theorem isLoaded_serve_of_closed (closed : store.informers.Closed) (key : Key)
    (resource : ApiResource) :
    (store.serve key resource).1.loading.isLoaded key.scope = false := by
  refine isLoaded_noteUse ?_ key
  rw [informers_obtainInformer]
  exact congrArg Replica.synced (closed.replica_obtain resource)

section Returning

variable (closed : store.informers.Closed) (call : CallId) (key : Key) (resource : ApiResource)

include closed

theorem mapped_list_of_closed :
    (store.mapped call (.list key) resource).2 = .finished (.ok (.listed [] true)) := by
  simp only [mapped, finish, replica_serve_of_closed closed, isLoaded_serve_of_closed closed,
    Replica.list_empty, Bool.not_false]

theorem mapped_get_of_closed :
    (store.mapped call (.get key) resource).2 = .finished (.ok (.found none)) := by
  simp only [mapped, finish, replica_serve_of_closed closed]
  rfl

/-- A closed store returns no objects but only an empty list or that there is no object. -/
theorem mapped_of_closed {operation : Operation} {outcome : Outcome}
    (returned : (store.mapped call operation resource).2 = .finished (.ok outcome))
    (objects : outcome.isObjects = true) :
    outcome = .listed [] true ∨ outcome = .found none := by
  cases operation with
  | list key =>
      rw [mapped_list_of_closed closed] at returned
      cases returned
      exact Or.inl rfl
  | get key =>
      rw [mapped_get_of_closed closed] at returned
      cases returned
      exact Or.inr rfl
  | delete key | update key change => cases returned
  | _ =>
      cases returned
      cases objects

end Returning

/-! ## The journal -/

/-- What the later store has noted since is not that a listener was told. -/
def TellsNobody (before after : Store) : Prop :=
  ∃ noted, after.journal = noted ++ before.journal ∧
    ∀ label change, .told label change ∉ noted

theorem tellsNobody_of_journal {before after : Store} (same : after.journal = before.journal) :
    before.TellsNobody after := ⟨[], same, fun _ _ => List.not_mem_nil⟩

theorem tellsNobody_of_sent {before after : Store} {client : ClientId} {request : Request}
    (sent : after.journal = .sent client request :: before.journal) :
    before.TellsNobody after := by
  refine ⟨[.sent client request], sent, fun label change member => ?_⟩
  cases List.mem_singleton.1 member

theorem TellsNobody.trans {first second third : Store} (left : first.TellsNobody second)
    (right : second.TellsNobody third) : first.TellsNobody third := by
  obtain ⟨earlier, earlierJournal, earlierSilent⟩ := left
  obtain ⟨later, laterJournal, laterSilent⟩ := right
  refine ⟨later ++ earlier, by rw [laterJournal, earlierJournal, List.append_assoc], ?_⟩
  intro label change member
  rcases List.mem_append.1 member with inLater | inEarlier
  · exact laterSilent label change inLater
  · exact earlierSilent label change inEarlier

theorem Goes.tellsNobody {call : CallId} {operation : Operation} {move : Move} {stage : Stage}
    {next : Store × Stage} (goes : store.Goes call operation move stage next) :
    store.TellsNobody next.1 := by
  cases goes with
  | stays _ silent | queues _ access flight silent | drops _ silent =>
      exact tellsNobody_of_journal silent
  | asks _ _ sent => exact tellsNobody_of_sent sent
  | ends _ result _ ran journal callbacks =>
      refine ⟨ran, journal, fun label change member => ?_⟩
      obtain ⟨callback, isRan⟩ := callbacks _ member
      cases isRan
  | serves _ _ _ _ resource _ key _ _ served =>
      rcases store.journal_serve key resource with silent | opened
      · exact tellsNobody_of_journal (served.trans silent)
      · exact tellsNobody_of_sent (served.trans opened)
  | swaps _ _ _ _ changed =>
      cases changed
      exact tellsNobody_of_journal rfl

theorem journal_turn_of_none {id : InformerId} (nothing : store.next? id = none) :
    ((surroundings id).turn store).journal = store.journal := by
  rcases (surroundings id).turn_of_next?_none nothing with same | stopped
  · rw [same]
  · rw [stopped]
    rfl

/-! ## Records -/

theorem loadsNothing_serve (store : Store) (key : Key) (resource : ApiResource) :
    store.loading.LoadsNothing (store.serve key resource).1.loading := by
  have obtained : (store.obtainInformer resource).1.loading = store.loading := by
    simp only [obtainInformer]
    split <;> rfl
  rw [← obtained, serve, loading_noteUse]
  split
  · exact Loading.loadsNothing_record _ key.scope
  · exact Loading.LoadsNothing.refl _

theorem loadsNothing_perform (store : Store) (deed : Deed) :
    store.loading.LoadsNothing (store.perform deed).loading := by
  cases deed with
  | nothing | changeClient client => exact Loading.LoadsNothing.refl _
  | serve key resource => exact loadsNothing_serve store key resource
  | watch key resource listener type => exact loadsNothing_serve store key resource
  | forget kind resource => exact fun _ _ holds _ => (Loading.holds_of_forgetKind holds).1
  | reset => exact fun _ _ holds _ => absurd holds List.not_mem_nil

end Store

end ClusterCache
