import ClusterCache.Proofs.Replica.Announcement
import ClusterCache.Proofs.System.Mirror

/-!
# Listeners hear every change

A listener that stays registered on an informer is told what each consumed item changes. If its key
leaves nothing out, what it is told leads from the versions that were stored when it began to listen
to those that are stored now, after every move of every run.
-/

namespace ClusterCache

/-- The key fits every object. -/
structure Key.IsUnrestricted (key : Key) : Prop where
  ns : key.ns = ""
  name : key.name = none
  selector : key.selector = none

theorem Key.IsUnrestricted.isMatch {key : Key} (unrestricted : key.IsUnrestricted)
    (object : Object) : key.isMatch object = true := by
  simp [Key.isMatch, unrestricted.ns, unrestricted.name, unrestricted.selector]

namespace Store

/-! ## Listening -/

/-- The registration is on the informer, and the informer goes on. -/
structure Listens (store : Store) (id : InformerId) (subscription : Subscription Listener) :
    Prop where
  registered : subscription ∈ (store.informers.informer id).handlers.subscriptions
  going : store.informers.isStopped id = false

/-- The number of the registration was given out on the informer. -/
structure Issued (store : Store) (id : InformerId) (subscription : Subscription Listener) :
    Prop where
  numbered : store.informers.Numbered
  used : id < store.informers.started.length
  old : subscription.id.serial < (store.informers.informer id).handlers.issued

/-- Who listens to an informer bears a number that it gave out. -/
theorem issued_of_mem {store : Store} (numbered : store.informers.Numbered) {id : InformerId}
    {subscription : Subscription Listener}
    (registered : subscription ∈ (store.informers.informer id).handlers.subscriptions) :
    store.Issued id subscription ∧ subscription.id.owner = id := by
  have used : id < store.informers.started.length := by
    refine Nat.lt_of_not_le fun unused => ?_
    rw [Informers.informer_of_le unused] at registered
    exact absurd registered List.not_mem_nil
  have owned := (numbered.handlers id).owned subscription registered
  exact ⟨⟨numbered, used, (numbered.handlers id).below subscription registered⟩,
    owned.trans (numbered.owner id used)⟩

/-- Who listens later, under a number already given out, listens now. -/
theorem Issued.persists {before after : Store} {id : InformerId}
    {subscription : Subscription Listener} (issued : before.Issued id subscription)
    (persists : before.informers.Persists after.informers) :
    after.Issued id subscription ∧
      (after.Listens id subscription → before.Listens id subscription) := by
  constructor
  · exact ⟨persists.numbered issued.numbered, Nat.lt_of_lt_of_le issued.used persists.started,
      Nat.lt_of_lt_of_le issued.old (persists.handlers id issued.used).issued⟩
  · intro listens
    refine ⟨persists.mem_of_mem issued.used issued.old listens.registered, ?_⟩
    by_contra stopped
    have later := persists.isStopped issued.used (by simpa using stopped)
    rw [listens.going] at later
    cases later

/-! ## Turns -/

/-- Who listens through a turn that takes an item in hears its changes, as far as the key fits. -/
theorem heardBy_turn {store : Store} {id : InformerId} {item : StreamItem}
    {subscription : Subscription Listener} (issued : store.Issued id subscription)
    (next : store.next? id = some item)
    (listens : ((surroundings id).turn store).Listens id subscription) :
    Surroundings.heardBy subscription.id ((surroundings id).told store) =
      (store.changesOf id item).filter fun change => subscription.key.isMatch change.object := by
  have soundTaken := (issued.persists (persists_takenIn store id item)).1
  have heard := (surroundings id).heardBy_deliver
    (fun store => store.Issued id subscription) (fun store => store.Listens id subscription)
    (fun entry change world sound => Issued.persists sound
      (continues_tell entry change world).toPersists)
    (fun world sound => (sound.numbered.handlers id).distinct)
    (fun world listens => listens.registered)
    (fun world listens => listens.going)
    (store.changesOf id item) (store.takenIn id item) [] soundTaken
    (turn_eq_deliver next ▸ listens)
  rw [told_eq_deliver next, heard]
  rfl

/-- A turn that takes nothing in tells nobody anything. -/
theorem heardBy_turn_of_none {store : Store} {id : InformerId} (nothing : store.next? id = none)
    (watch : WatchId) :
    Surroundings.heardBy watch ((surroundings id).told store) = [] := by
  unfold Surroundings.told
  rw [(surroundings id).turn_logged_of_next?_none nothing]
  rfl

/-- The turn of an informer tells nothing under the number of another. -/
theorem heardBy_turn_of_ne {store : Store} (numbered : store.informers.Numbered)
    {id : InformerId} {watch : WatchId} (different : watch.owner ≠ id) :
    Surroundings.heardBy watch ((surroundings id).told store) = [] := by
  cases next : store.next? id with
  | none => exact heardBy_turn_of_none next watch
  | some item =>
      let sound (store : Store) : Prop :=
        store.informers.Numbered ∧ id < store.informers.started.length
      have persistsSound : ∀ {before after : Store}, sound before →
          before.informers.Persists after.informers → sound after :=
        fun soundBefore persists => ⟨persists.numbered soundBefore.1,
          Nat.lt_of_lt_of_le soundBefore.2 persists.started⟩
      have soundTaken : sound (store.takenIn id item) :=
        persistsSound ⟨numbered, lt_length_of_next? next⟩ (persists_takenIn store id item)
      have logged := (surroundings id).mem_deliver_logged sound (fun watch => watch.owner = id)
        (fun entry change world soundWorld =>
          persistsSound soundWorld (continues_tell entry change world).toPersists)
        (fun world soundWorld entry registered =>
          ((soundWorld.1.handlers id).owned entry registered).trans
            (soundWorld.1.owner id soundWorld.2))
        (store.changesOf id item) (store.takenIn id item) [] soundTaken
        (fun entry member => absurd member List.not_mem_nil)
      rw [told_eq_deliver next]
      refine Surroundings.heardBy_eq_nil fun entry member same => different ?_
      rw [← same]
      exact logged entry member

end Store

namespace System

/-! ## Runs -/

def objects (system : System) (id : InformerId) : Objects :=
  (system.store.informers.informer id).replica.objects

/-- What a registration is told by a move. -/
def told (watch : WatchId) (system : System) : Move → List Change
  | .turn id => Surroundings.heardBy watch ((Store.surroundings id).told system.store)
  | _ => []

/-- What a registration is told along a run. -/
def heard (system : System) (watch : WatchId) (moves : List Move) : List Change :=
  system.collect (told watch) moves

/-- What the items change that an informer takes in by a move. -/
def changed (id : InformerId) (system : System) (move : Move) : List Change :=
  (taken id system move).flatMap (system.store.changesOf id)

theorem changed_turn {system : System} {id : InformerId} {item : StreamItem}
    (next : system.store.next? id = some item) :
    changed id system (.turn id) = system.store.changesOf id item := by
  simp [changed, taken, next]

/-- A move by which the informer takes nothing in leaves its objects as they are. -/
theorem objects_of_taken_nil {system : System} {id : InformerId} {move : Move}
    (nothing : taken id system move = []) :
    (system.apply move).objects id = system.objects id := by
  rw [objects, objects, replica_apply, nothing]
  rfl

/-- A move by which the informer takes nothing in tells its listeners nothing. -/
theorem told_of_taken_nil {system : System} {id : InformerId}
    {subscription : Subscription Listener} (numbered : system.store.informers.Numbered)
    (owner : subscription.id.owner = id) {move : Move} (nothing : taken id system move = []) :
    told subscription.id system move = [] := by
  cases move with
  | turn other =>
      by_cases same : other = id
      · subst same
        have noItem : system.store.next? other = none := by
          simpa [taken] using nothing
        exact Store.heardBy_turn_of_none noItem _
      · exact Store.heardBy_turn_of_ne numbered (owner ▸ Ne.symm same)
  | _ => rfl

/-- A turn that takes an item in tells a listener what the item changes, as far as the key fits. -/
theorem told_turn {system : System} {id : InformerId} {subscription : Subscription Listener}
    (issued : system.store.Issued id subscription) {item : StreamItem}
    (next : system.store.next? id = some item)
    (listens : (system.apply (.turn id)).store.Listens id subscription) :
    told subscription.id system (.turn id) =
      (changed id system (.turn id)).filter fun change =>
        subscription.key.isMatch change.object := by
  rw [told, Store.heardBy_turn issued next listens, changed_turn next]

/-- What an informer takes in by a move is announced by what it changes. -/
theorem announce_changed {system : System} {id : InformerId} {items : List StreamItem}
    (mirrors : (system.store.informers.informer id).replica.Mirrors items)
    {item : StreamItem} (next : system.store.next? id = some item) :
    Change.Announce (system.objects id) ((system.apply (.turn id)).objects id) item
      (changed id system (.turn id)) := by
  have after : (system.apply (.turn id)).objects id =
      ((system.store.informers.informer id).replica.takeItem item).1.objects := by
    rw [objects, replica_turn next id, if_pos rfl]
  rw [changed_turn next, after]
  exact Replica.announce_takeItem mirrors item

/-- What a listener is told by a turn announces the item that is taken in. -/
theorem announce_told {system : System} {id : InformerId} {subscription : Subscription Listener}
    (issued : system.store.Issued id subscription)
    (unrestricted : subscription.key.IsUnrestricted) {items : List StreamItem}
    (mirrors : (system.store.informers.informer id).replica.Mirrors items)
    {item : StreamItem} (next : system.store.next? id = some item)
    (listens : (system.apply (.turn id)).store.Listens id subscription) :
    Change.Announce (system.objects id) ((system.apply (.turn id)).objects id) item
      (told subscription.id system (.turn id)) := by
  have everything : told subscription.id system (.turn id) = changed id system (.turn id) := by
    rw [told_turn issued next listens]
    exact List.filter_eq_self.2 fun change _ => unrestricted.isMatch change.object
  rw [everything]
  exact announce_changed mirrors next

/-- Following what a listener is told by a move leads from the versions before it to those after
it. -/
theorem replay_told {system : System} {id : InformerId} {subscription : Subscription Listener}
    (issued : system.store.Issued id subscription) (owner : subscription.id.owner = id)
    (unrestricted : subscription.key.IsUnrestricted) {items : List StreamItem}
    (mirrors : (system.store.informers.informer id).replica.Mirrors items) {move : Move}
    (listens : (system.apply move).store.Listens id subscription) :
    (told subscription.id system move).foldl Versions.replay
        (Versions.stored (system.objects id)) =
      Versions.stored ((system.apply move).objects id) := by
  rcases taken_cases system id move with nothing | ⟨item, rfl, next⟩
  · rw [told_of_taken_nil issued.numbered owner nothing, objects_of_taken_nil nothing]
    rfl
  · exact (announce_told issued unrestricted mirrors next listens).replay

/-- Replaying what a listener was told gives what is stored, after every move. A turn that takes an
item in announces exactly what the item changes, and no other move tells anything. -/
theorem heard_replays_stored (config : StoreConfig) (client : ClientId) (id : InformerId)
    (subscription : Subscription Listener) (earlier later : List Move)
    (unrestricted : subscription.key.IsUnrestricted)
    (registered : ((start config client).run earlier).store.Listens id subscription)
    (lasting : ((start config client).run (earlier ++ later)).store.Listens id subscription) :
    (∀ first rest, later = first ++ rest →
      (((start config client).run earlier).heard subscription.id first).foldl Versions.replay
          (Versions.stored (((start config client).run earlier).objects id)) =
        Versions.stored (((start config client).run (earlier ++ first)).objects id)) ∧
      (∀ first item rest, later = first ++ .turn id :: rest →
        ((start config client).run (earlier ++ first)).store.next? id = some item →
        Change.Announce (((start config client).run (earlier ++ first)).objects id)
          (((start config client).run (earlier ++ first ++ [.turn id])).objects id) item
          (told subscription.id ((start config client).run (earlier ++ first)) (.turn id))) ∧
      ∀ first move rest, later = first ++ move :: rest →
        taken id ((start config client).run (earlier ++ first)) move = [] →
        told subscription.id ((start config client).run (earlier ++ first)) move = [] := by
  obtain ⟨issued, owner⟩ := Store.issued_of_mem (numbered_run config client earlier)
    registered.registered
  -- Who listens at the end listened after every move on the way.
  have issuedAfter : ∀ first,
      ((start config client).run (earlier ++ first)).store.Issued id subscription := by
    intro first
    rw [run_append]
    exact (issued.persists (persists_run _ first)).1
  have listensAfter : ∀ first rest, later = first ++ rest →
      ((start config client).run (earlier ++ first)).store.Listens id subscription := by
    intro first rest split
    have persists := persists_run ((start config client).run (earlier ++ first)) rest
    refine ((issuedAfter first).persists persists).2 ?_
    rw [← run_append, List.append_assoc, ← split]
    exact lasting
  have mirrorsAfter := fun first => mirrors_run config client id (earlier ++ first)
  refine ⟨?_, ?_, ?_⟩
  · intro first
    induction first using List.reverseRecOn with
    | nil => simp [heard, collect]
    | append_singleton first move inductionHypothesis =>
        intro rest split
        have splitBefore : later = first ++ move :: rest := by simpa using split
        have listens := listensAfter (first ++ [move]) rest split
        rw [← List.append_assoc, run_concat] at listens ⊢
        have step := replay_told (issuedAfter first) owner unrestricted (mirrorsAfter first)
          listens
        have before := inductionHypothesis _ splitBefore
        rw [heard] at before
        rw [heard, collect_concat, List.foldl_append, ← run_append, before, step]
  · intro first item rest split next
    have listens := listensAfter (first ++ [.turn id]) rest (by simpa using split)
    rw [← List.append_assoc, run_concat] at listens
    rw [run_concat]
    exact announce_told (issuedAfter first) unrestricted (mirrorsAfter first) next listens
  · intro first move rest _ nothing
    exact told_of_taken_nil (issuedAfter first).numbered owner nothing

/-! A listener on all pods, and a run in which a pod appears and is gone again. -/

def podKey : Key := .ofScope "" "v1" "Pod"

def podListener : Subscription Listener := ⟨⟨0, 0⟩, podKey, ⟨"pods", []⟩⟩

def pod : Object :=
  ⟨none, { (default : Metadata) with name := some "web", resourceVersion := some "1" },
    Dictionary.empty⟩

def podWatch : List Move :=
  [.presetDecision ⟨"", "", "pods", Verb.watch.text⟩ true,
    .begin (.watch podKey ⟨"pods", []⟩ ⟨"", "v1", "pods"⟩),
    .answer 0 (.resource (.ok (.served "" "v1" "Pod" "pods"))),
    .answer 0 (.resource (.ok (.served "" "v1" "Pod" "pods")))]

def podStream : List Move :=
  [.send 0 (.event (.apply pod)), .turn 0, .send 0 (.event .init),
    .send 0 (.event .initDone), .turn 0, .turn 0]

theorem heard_replays_stored_pods :
    podKey.IsUnrestricted ∧
      ((start .standard 0).run podWatch).store.Listens 0 podListener ∧
      ((start .standard 0).run (podWatch ++ podStream)).store.Listens 0 podListener ∧
      (((start .standard 0).run podWatch).heard ⟨0, 0⟩ podStream).foldl Versions.replay
          (Versions.stored (((start .standard 0).run podWatch).objects 0)) =
        Versions.stored (((start .standard 0).run (podWatch ++ podStream)).objects 0) := by
  have unrestricted : podKey.IsUnrestricted := ⟨rfl, rfl, rfl⟩
  have registered : ((start .standard 0).run podWatch).store.Listens 0 podListener :=
    ⟨List.mem_singleton.2 rfl, rfl⟩
  have lasting : ((start .standard 0).run (podWatch ++ podStream)).store.Listens 0 podListener :=
    ⟨List.mem_singleton.2 rfl, rfl⟩
  exact ⟨unrestricted, registered, lasting,
    (heard_replays_stored .standard 0 0 podListener podWatch podStream unrestricted registered
      lasting).1 podStream [] (List.append_nil _).symm⟩

end System

end ClusterCache
