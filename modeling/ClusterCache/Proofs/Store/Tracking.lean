import ClusterCache.Proofs.Informers.Ownership
import ClusterCache.Proofs.Key.Text
import ClusterCache.Proofs.Scopes.Records
import ClusterCache.Proofs.Store.Continuation

/-!
# What is recorded about loading is borne out

A scope recorded as loading has a waiter on the live informer of its kind; one recorded as loaded
has a live informer that is synced; a kind recorded as used has a live informer. Every deed on plain
keys keeps this, if kinds are mapped to types one to one, and so does every listener that does
nothing but register and remove listeners.
-/

namespace ClusterCache

/-! ## Listeners that only register -/

/-- The reaction registers or removes a listener. -/
def Reaction.isTame : Reaction → Bool
  | .unsubscribe _ | .subscribe .. => true
  | _ => false

def Listener.isTame (listener : Listener) : Bool :=
  listener.reactions.all fun reaction => reaction.2.isTame

/-- Every registered listener only registers or removes listeners. -/
def Informers.Tame (informers : Informers Listener) : Prop :=
  ∀ id, ∀ entry ∈ (informers.informer id).handlers.subscriptions, entry.handler.isTame = true

/-! ## The invariant -/

/-- What an entry for a scope says about the informer of its kind is so. -/
structure Accounted (typeOf : GroupVersionKind → Option ResourceType)
    (informers : Informers Listener) (waiters : List Waiter) (entry : ScopeEntry) (key : Key)
    (id : InformerId) : Prop where
  plain : key.IsPlain
  apiVersion : entry.apiVersion = key.apiVersion
  kind : entry.kind = key.kind
  serves : informers.Serves typeOf key.groupVersionKind id
  loaded : entry.loaded = true → (informers.informer id).replica.synced = true
  loading : entry.loaded = false →
    ∃ waiter ∈ waiters, waiter.scope = key.scope ∧ waiter.informer = id

/-- A waiter waits for an informer of the kind of its scope. -/
structure Waits (typeOf : GroupVersionKind → Option ResourceType)
    (informers : Informers Listener) (waiter : Waiter) : Prop where
  plain : waiter.scope.IsPlain
  isScope : waiter.scope.scope = waiter.scope
  used : waiter.informer < informers.started.length
  type : typeOf waiter.scope.groupVersionKind =
    some (informers.informer waiter.informer).type

/-- The informers are owned, and the records, the waiters and the informers are in step. -/
structure Tracked (typeOf : GroupVersionKind → Option ResourceType) (held : Holdings) :
    Prop where
  owned : held.informers.Owned
  isOpen : held.informers.tokens.closed = false
  running : held.stopped = false
  tame : held.informers.Tame
  numbered : ∀ waiter ∈ held.waiters, waiter.id < held.waitersStarted
  distinct : (held.waiters.map Waiter.id).Nodup
  waits : ∀ waiter ∈ held.waiters, Waits typeOf held.informers waiter
  entries : ∀ {text entry}, held.loading.Holds text entry →
    ∃ key id, text = key.scope.text ∧
      Accounted typeOf held.informers held.waiters entry key id
  used : ∀ {ns kind}, held.usage.Holds ns kind → ∃ id, held.informers.Serves typeOf kind id

namespace Tracked

variable {typeOf : GroupVersionKind → Option ResourceType} {held later : Holdings}

theorem start (typeOf : GroupVersionKind → Option ResourceType) (config : StoreConfig)
    (client : ClientId) : Tracked typeOf (Store.start config client).holdings where
  owned := Informers.owned_empty client config.ns
  isOpen := rfl
  running := rfl
  tame _ _ member := absurd member List.not_mem_nil
  numbered _ member := absurd member List.not_mem_nil
  distinct := List.nodup_nil
  waits _ member := absurd member List.not_mem_nil
  entries member := absurd member List.not_mem_nil
  used := by
    rintro ns kind ⟨kinds, member, _⟩
    exact absurd member List.not_mem_nil

/-- A waiter is known by its number. -/
theorem eq_of_id_eq (tracked : Tracked typeOf held) {waiter other : Waiter}
    (member : waiter ∈ held.waiters) (otherMember : other ∈ held.waiters)
    (same : waiter.id = other.id) : waiter = other :=
  List.inj_on_of_nodup_map tracked.distinct member otherMember same

/-- Only the informers change, and whoever is current stays so. -/
theorem of_keeps (tracked : Tracked typeOf held) (keeps : held.informers.Keeps later.informers)
    (owned : later.informers.Owned) (isOpen : later.informers.tokens.closed = false)
    (tame : later.informers.Tame)
    (same : later.loading = held.loading ∧ later.usage = held.usage ∧
      later.stopped = held.stopped ∧ later.waiters = held.waiters ∧
      later.waitersStarted = held.waitersStarted) :
    Tracked typeOf later := by
  obtain ⟨loading, usage, stopped, waiters, waitersStarted⟩ := same
  have serves : ∀ {kind id}, held.informers.Serves typeOf kind id →
      later.informers.Serves typeOf kind id :=
    fun serves => serves.of_found owned isOpen fun _ found => keeps.found found
  constructor
  case owned => exact owned
  case isOpen => exact isOpen
  case running => exact stopped.trans tracked.running
  case tame => exact tame
  case numbered =>
    rw [waiters, waitersStarted]
    exact tracked.numbered
  case distinct =>
    rw [waiters]
    exact tracked.distinct
  case waits =>
    intro waiter member
    rw [waiters] at member
    obtain ⟨plain, isScope, used, type⟩ := tracked.waits waiter member
    refine ⟨plain, isScope, Nat.lt_of_lt_of_le used keeps.started, ?_⟩
    rw [keeps.type used]
    exact type
  case entries =>
    intro text entry holds
    rw [loading] at holds
    obtain ⟨key, id, isText, accounted⟩ := tracked.entries holds
    rw [waiters]
    exact ⟨key, id, isText,
      { accounted with
        serves := serves accounted.serves
        loaded := fun loaded => keeps.synced id (accounted.loaded loaded) }⟩
  case used =>
    intro ns kind holds
    rw [usage] at holds
    obtain ⟨id, before⟩ := tracked.used holds
    exact ⟨id, serves before⟩

/-- Only registrations and streams change. -/
theorem of_steady (tracked : Tracked typeOf held)
    (steady : held.informers.Steady later.informers) (tame : later.informers.Tame)
    (same : later.loading = held.loading ∧ later.usage = held.usage ∧
      later.stopped = held.stopped ∧ later.waiters = held.waiters ∧
      later.waitersStarted = held.waitersStarted) :
    Tracked typeOf later := by
  refine tracked.of_keeps steady.keeps (tracked.owned.of_steady steady) ?_ tame same
  rw [steady.tokens]
  exact tracked.isOpen

/-! ## Serving -/

theorem recordUse (tracked : Tracked typeOf held) {kind : GroupVersionKind} {id : InformerId}
    (serves : held.informers.Serves typeOf kind id) (ns : String) :
    Tracked typeOf { held with usage := held.usage.record ns kind true } :=
  { tracked with
    used := by
      intro other used holds
      rcases Usage.holds_of_record holds with rfl | before
      · exact ⟨id, serves⟩
      · exact tracked.used before }

theorem recordLoading (tracked : Tracked typeOf held) {key : Key} (plain : key.IsPlain)
    {id : InformerId} (serves : held.informers.Serves typeOf key.groupVersionKind id) :
    Tracked typeOf
      { held with
        loading := held.loading.record key.scope false
        waiters := held.waiters ++ [⟨held.waitersStarted, key.scope, id⟩]
        waitersStarted := held.waitersStarted + 1 } := by
  obtain ⟨type, mapped, found, going⟩ := serves
  have fresh : held.waitersStarted ∉ held.waiters.map Waiter.id := by
    intro member
    obtain ⟨waiter, inWaiters, same⟩ := List.mem_map.1 member
    exact absurd (tracked.numbered waiter inWaiters) (by omega)
  have appended : ∀ {waiter : Waiter},
      waiter ∈ held.waiters ++ [⟨held.waitersStarted, key.scope, id⟩] →
      waiter ∈ held.waiters ∨ waiter = ⟨held.waitersStarted, key.scope, id⟩ := by
    intro waiter member
    simpa using member
  exact
    { tracked with
      numbered := by
        intro waiter member
        rcases appended member with before | rfl
        · exact Nat.lt_succ_of_lt (tracked.numbered waiter before)
        · exact Nat.lt_succ_self _
      distinct := by
        rw [List.map_append]
        exact tracked.distinct.append (List.nodup_singleton _)
          (List.disjoint_singleton.2 fresh)
      waits := by
        intro waiter member
        rcases appended member with before | rfl
        · exact tracked.waits waiter before
        · exact ⟨plain.scope, rfl, tracked.owned.used found, by
            rw [tracked.owned.type found]
            exact mapped⟩
      entries := by
        intro text entry holds
        rcases Loading.holds_of_record holds with ⟨rfl, rfl⟩ | ⟨before, _⟩
        · exact ⟨key, id, rfl,
            { plain
              apiVersion := rfl
              kind := rfl
              serves := ⟨type, mapped, found, going⟩
              loaded := by rintro ⟨⟩
              loading := fun _ => ⟨_, List.mem_append_right _ (List.mem_singleton.2 rfl),
                rfl, rfl⟩ }⟩
        · obtain ⟨other, otherId, isText, accounted⟩ := tracked.entries before
          refine ⟨other, otherId, isText, { accounted with loading := ?_ }⟩
          intro loading
          obtain ⟨waiter, member, waitsFor⟩ := accounted.loading loading
          exact ⟨waiter, List.mem_append_left _ member, waitsFor⟩ }

/-- Noting the use of a kind records it, together with its waiter if it has to load. -/
theorem noteUse {store : Store} (tracked : Tracked typeOf store.holdings) {key : Key}
    (plain : key.IsPlain) {id : InformerId}
    (serves : store.informers.Serves typeOf key.groupVersionKind id) :
    Tracked typeOf (store.noteUse key id).holdings := by
  have used : Tracked typeOf
      (if store.usage.isUsed key.ns key.groupVersionKind then store
        else { store with
          usage := store.usage.record key.ns key.groupVersionKind true }).holdings := by
    split
    · exact tracked
    · exact tracked.recordUse serves key.ns
  have informers : (if store.usage.isUsed key.ns key.groupVersionKind then store
        else { store with
          usage := store.usage.record key.ns key.groupVersionKind true }).informers =
      store.informers := by
    split <;> rfl
  simp only [Store.noteUse]
  generalize (if store.usage.isUsed key.ns key.groupVersionKind then store
        else { store with
          usage := store.usage.record key.ns key.groupVersionKind true }) = noted at used informers
  rw [← informers] at serves
  split
  · exact used.recordLoading plain serves
  · exact used

theorem tame_obtain {informers : Informers Listener} (tame : informers.Tame)
    (resource : ApiResource) : (informers.obtain resource).1.Tame := by
  unfold Informers.obtain
  split
  · exact tame
  · intro id entry member
    by_cases isNew : id = informers.started.length
    · subst isNew
      rw [Informers.informer_start_self] at member
      exact absurd member List.not_mem_nil
    · rw [Informers.informer_start_of_ne informers resource isNew] at member
      exact tame id entry member

/-- Serving a plain key whose kind is mapped to the resource. -/
theorem serve {store : Store} (tracked : Tracked typeOf store.holdings) {key : Key}
    (plain : key.IsPlain) {resource : ApiResource}
    (mapped : typeOf key.groupVersionKind = some (.ofResource resource)) :
    Tracked typeOf (store.serve key resource).1.holdings ∧
      (store.serve key resource).1.informers.Serves typeOf key.groupVersionKind
        (store.serve key resource).2 := by
  obtain ⟨keeps, found, isOpen⟩ := tracked.owned.keeps_obtain tracked.isOpen resource
  have informers : (store.obtainInformer resource).1.informers =
      (store.informers.obtain resource).1 := Store.informers_obtainInformer store resource
  have obtained : Tracked typeOf (store.obtainInformer resource).1.holdings := by
    refine tracked.of_keeps ?_ ?_ ?_ ?_ ?_
    · change store.informers.Keeps (store.obtainInformer resource).1.informers
      rw [informers]
      exact keeps
    · change (store.obtainInformer resource).1.informers.Owned
      rw [informers]
      exact tracked.owned.obtain resource
    · change (store.obtainInformer resource).1.informers.tokens.closed = false
      rw [informers]
      exact isOpen
    · change (store.obtainInformer resource).1.informers.Tame
      rw [informers]
      exact tame_obtain tracked.tame resource
    · simp only [Store.obtainInformer]
      split <;> exact ⟨rfl, rfl, rfl, rfl, rfl⟩
  have serves : (store.obtainInformer resource).1.informers.Serves typeOf key.groupVersionKind
      (store.obtainInformer resource).2.1 := by
    have foundHere : (store.obtainInformer resource).1.informers.find? (.ofResource resource) =
        some (store.obtainInformer resource).2.1 := by
      rw [informers]
      exact found
    exact ⟨_, mapped, foundHere, obtained.owned.live obtained.isOpen foundHere⟩
  refine ⟨obtained.noteUse plain serves, ?_⟩
  unfold Store.serve
  rw [Store.informers_noteUse]
  exact serves

/-! ## Registrations and streams -/

theorem tame_modify {informers : Informers Listener} (tame : informers.Tame) (id : InformerId)
    {change : Informer Listener → Informer Listener}
    (changed : ∀ entry ∈ (change (informers.informer id)).handlers.subscriptions,
      entry.handler.isTame = true) : (informers.modify id change).Tame := by
  intro other entry member
  by_cases same : other = id
  · subst same
    by_cases used : other < informers.started.length
    · rw [Informers.informer_modify_self used] at member
      exact changed entry member
    · rw [Informers.informer_of_le (by simpa using used)] at member
      exact absurd member List.not_mem_nil
  · rw [Informers.informer_modify_of_ne informers same] at member
    exact tame other entry member

/-- A change of one informer that leaves its token, its type and that it is synced. -/
theorem modify {store : Store} (tracked : Tracked typeOf store.holdings) (id : InformerId)
    (change : Informer Listener → Informer Listener)
    (token : (change (store.informers.informer id)).token =
      (store.informers.informer id).token)
    (type : (change (store.informers.informer id)).type = (store.informers.informer id).type)
    (synced : (store.informers.informer id).replica.synced = true →
      (change (store.informers.informer id)).replica.synced = true)
    (tame : ∀ entry ∈ (change (store.informers.informer id)).handlers.subscriptions,
      entry.handler.isTame = true) (registrations : List Registration) :
    Tracked typeOf
      { store.holdings with informers := store.informers.modify id change, registrations } :=
  tracked.of_steady (Informers.steady_modify store.informers id token type synced)
    (tame_modify tracked.tame id tame) ⟨rfl, rfl, rfl, rfl, rfl⟩

theorem subscribe {store : Store} (tracked : Tracked typeOf store.holdings) (id : InformerId)
    (type : ResourceType) (key : Key) {listener : Listener} (tame : listener.isTame = true) :
    Tracked typeOf (store.subscribe id type key listener).1.holdings := by
  refine tracked.modify id
    (fun informer => { informer with
      handlers := ((store.informers.informer id).handlers.subscribe key listener).1 })
    rfl rfl (fun synced => synced) ?_ _
  intro entry member
  rcases List.mem_append.1 member with before | isNew
  · exact tracked.tame id entry before
  · rw [List.mem_singleton.1 isNew]
    exact tame

theorem unsubscribe {store : Store} (tracked : Tracked typeOf store.holdings)
    (label : String) : Tracked typeOf (store.unsubscribe label).1.holdings := by
  unfold Store.unsubscribe
  split
  · exact tracked
  · rename_i registration _
    split
    · exact tracked
    · rename_i id _
      refine tracked.modify id
        (fun informer => { informer with
          handlers :=
            ((store.informers.informer id).handlers.unsubscribe registration.id).1 })
        rfl rfl (fun synced => synced) ?_ _
      intro entry member
      exact tracked.tame id entry (List.mem_filter.1 member).1

theorem react {store : Store} (tracked : Tracked typeOf store.holdings) (own : String)
    {reaction : Reaction} (tame : reaction.isTame = true) :
    Tracked typeOf (store.react own reaction).holdings := by
  cases reaction with
  | unsubscribe label => exact tracked.unsubscribe _
  | subscribe type label key =>
      simp only [Store.react]
      split
      · exact tracked.subscribe _ type key rfl
      · exact tracked
  | shutdown => cases tame
  | stop type => cases tame

theorem reactAll {store : Store} (tracked : Tracked typeOf store.holdings) (own : String)
    {reactions : List (Trigger × Reaction)}
    (tame : ∀ reaction ∈ reactions, reaction.2.isTame = true) :
    Tracked typeOf
      (reactions.foldl (fun (store : Store) reaction => store.react own reaction.2)
        store).holdings := by
  induction reactions generalizing store with
  | nil => exact tracked
  | cons reaction rest inductionHypothesis =>
      have reacted := tracked.react own (tame reaction List.mem_cons_self)
      exact inductionHypothesis reacted fun other member =>
        tame other (List.mem_cons_of_mem _ member)

theorem tell {entry : Subscription Listener} (tame : entry.handler.isTame = true)
    (change : Change) {store : Store} (tracked : Tracked typeOf store.holdings) :
    Tracked typeOf (Store.tell entry change store).holdings := by
  have noted : Tracked typeOf
      (store.enterJournal (.told entry.handler.label change)).holdings := tracked
  exact noted.reactAll entry.handler.label fun reaction member =>
    List.all_eq_true.1 tame reaction (List.mem_filter.1 member).1

theorem deliver {store : Store} (tracked : Tracked typeOf store.holdings) (id : InformerId)
    (changes : List Change) :
    Tracked typeOf ((Store.surroundings id).deliver changes store).holdings :=
  (Store.surroundings id).deliver_preserves
    (fun world (trackedWorld : Tracked typeOf world.holdings) => trackedWorld.tame id)
    (fun _ change _ tame trackedWorld => tell tame change trackedWorld) changes tracked

theorem synced_takeItem {replica : Replica} (synced : replica.synced = true)
    (item : StreamItem) : (replica.takeItem item).1.synced = true := by
  cases item with
  | failure => exact synced
  | event event => cases event <;> first | exact synced | rfl

/-- A turn of a loop keeps the records in step. -/
theorem turn {store : Store} (tracked : Tracked typeOf store.holdings) (id : InformerId) :
    Tracked typeOf ((Store.surroundings id).turn store).holdings := by
  cases next : store.next? id with
  | some item =>
      rw [Store.turn_eq_deliver next]
      refine deliver ?_ id _
      exact tracked.modify id
        (fun informer => { informer with
          inbox := informer.inbox.tail
          replica := (informer.replica.takeItem item).1 })
        rfl rfl (fun synced => synced_takeItem synced item) (tracked.tame id)
        store.registrations
  | none =>
      rcases (Store.surroundings id).turn_of_next?_none next with same | stopped
      · rw [same]
        exact tracked
      · rw [stopped]
        exact tracked.modify id
          (fun _ => { store.informers.informer id with running := false })
          rfl rfl (fun synced => synced) (tracked.tame id) store.registrations

/-! ## Waiters -/

/-- A waiter leaves; what is recorded afterwards has to be borne out without it. -/
theorem dismiss (tracked : Tracked typeOf held) (waiter : Waiter) {loading : Loading}
    (entries : ∀ {text entry}, loading.Holds text entry →
      ∃ key id, text = key.scope.text ∧
        Accounted typeOf held.informers
          (held.waiters.filter fun other => other.id ≠ waiter.id) entry key id) :
    Tracked typeOf
      { held with waiters := held.waiters.filter fun other => other.id ≠ waiter.id, loading } :=
  { tracked with
    numbered := fun other member => tracked.numbered other (List.mem_filter.1 member).1
    distinct := tracked.distinct.sublist (List.filter_sublist.map Waiter.id)
    waits := fun other member => tracked.waits other (List.mem_filter.1 member).1
    entries }

theorem mem_dismissed (tracked : Tracked typeOf held) {waiter other : Waiter}
    (member : waiter ∈ held.waiters) (otherMember : other ∈ held.waiters)
    (different : other ≠ waiter) :
    other ∈ held.waiters.filter fun other => other.id ≠ waiter.id := by
  refine List.mem_filter.2 ⟨otherMember, ?_⟩
  have differentId : other.id ≠ waiter.id := fun same =>
    different (tracked.eq_of_id_eq otherMember member same)
  simpa using differentId

/-- A waiter that looks at its informer keeps the records in step. -/
theorem wake {store : Store} (tracked : Tracked typeOf store.holdings) {waiter : Waiter}
    (member : waiter ∈ store.waiters) : Tracked typeOf (store.wake waiter).holdings := by
  have running : store.stopped = false := tracked.running
  cases stale : store.informers.isStopped waiter.informer with
  | true =>
      -- A waiter of a stopped informer was needed by no entry.
      rw [Store.holdings_wake_of_stopped stale]
      refine tracked.dismiss waiter fun holds => ?_
      obtain ⟨key, id, isText, accounted⟩ := tracked.entries holds
      refine ⟨key, id, isText, { accounted with loading := ?_ }⟩
      intro loading
      obtain ⟨other, otherMember, isScope, isInformer⟩ := accounted.loading loading
      have different : other ≠ waiter := by
        intro same
        obtain ⟨_, _, _, going⟩ := accounted.serves
        rw [← isInformer, same] at going
        exact absurd (stale.symm.trans going) (by decide)
      exact ⟨other, tracked.mem_dismissed member otherMember different, isScope, isInformer⟩
  | false =>
      cases synced : (store.informers.informer waiter.informer).replica.synced with
      | false =>
          have same : store.wake waiter = store := by
            simp [Store.wake, Informer.syncVerdict?, stale, synced, running]
          rw [same]
          exact tracked
      | true =>
          obtain ⟨plain, isScope, used, type⟩ := tracked.waits waiter member
          rw [Store.holdings_wake_of_synced stale synced]
          refine tracked.dismiss waiter fun holds => ?_
          rcases Loading.holds_of_record holds with ⟨rfl, rfl⟩ | ⟨before, otherText⟩
          · exact ⟨waiter.scope, waiter.informer, by rw [isScope],
              { plain
                apiVersion := rfl
                kind := rfl
                serves := ⟨_, type, tracked.owned.owned used stale, stale⟩
                loaded := fun _ => synced
                loading := by rintro ⟨⟩ }⟩
          · obtain ⟨key, id, isText, accounted⟩ := tracked.entries before
            refine ⟨key, id, isText, { accounted with loading := ?_ }⟩
            intro loading
            obtain ⟨other, otherMember, isOtherScope, isInformer⟩ := accounted.loading loading
            have different : other ≠ waiter := by
              intro same
              rw [isText, ← isOtherScope, same] at otherText
              exact otherText rfl
            exact ⟨other, tracked.mem_dismissed member otherMember different, isOtherScope,
              isInformer⟩

/-! ## Forgetting -/

section Forgetting

variable (injective : ∀ {kind other : GroupVersionKind} {type : ResourceType},
  typeOf kind = some type → typeOf other = some type → kind = other)

include injective

/-- Stopping the type of one kind leaves the informers of all other kinds. -/
theorem serves_stop (tracked : Tracked typeOf held) {kind other : GroupVersionKind}
    {stopped : ResourceType} (mapped : typeOf kind = some stopped) (different : other ≠ kind)
    {id : InformerId} (serves : held.informers.Serves typeOf other id) :
    (held.informers.stop stopped).1.Serves typeOf other id := by
  have isOpen : (held.informers.stop stopped).1.tokens.closed = false :=
    (Tokens.closed_revoke held.informers.tokens stopped).trans tracked.isOpen
  refine serves.of_found (tracked.owned.stop stopped) isOpen ?_
  intro type id otherMapped found
  have otherType : type ≠ stopped := by
    rintro rfl
    exact different (injective otherMapped mapped)
  rwa [Informers.find?_stop_of_ne held.informers otherType]

/-- A kind is forgotten together with its informer. -/
theorem forgetKind {store : Store} (tracked : Tracked typeOf store.holdings)
    {kind : GroupVersionKind} {resource : ApiResource}
    (mapped : typeOf kind = some (.ofResource resource)) :
    Tracked typeOf (store.forgetKind kind resource).holdings where
  owned := tracked.owned.stop _
  isOpen := (Tokens.closed_revoke store.informers.tokens _).trans tracked.isOpen
  running := tracked.running
  tame := tracked.tame
  numbered := tracked.numbered
  distinct := tracked.distinct
  waits waiter member := by
    obtain ⟨plain, isScope, used, type⟩ := tracked.waits waiter member
    exact ⟨plain, isScope, used, type⟩
  entries := by
    intro text entry holds
    obtain ⟨before, kept⟩ := Loading.holds_of_forgetKind holds
    obtain ⟨key, id, isText, accounted⟩ := tracked.entries before
    have different : key.groupVersionKind ≠ kind := by
      intro same
      refine kept ⟨?_, ?_⟩
      · rw [accounted.apiVersion, ← accounted.plain.apiVersion_groupVersionKind, same]
      · rw [accounted.kind, ← same]
        rfl
    exact ⟨key, id, isText,
      { accounted with
        serves := tracked.serves_stop injective mapped different accounted.serves }⟩
  used := by
    intro ns used holds
    obtain ⟨before, different⟩ := Usage.holds_of_forgetKind holds
    obtain ⟨id, serves⟩ := tracked.used before
    exact ⟨id, tracked.serves_stop injective mapped different serves⟩

end Forgetting

theorem reset {store : Store} (tracked : Tracked typeOf store.holdings) :
    Tracked typeOf store.reset.holdings where
  owned := tracked.owned.stopAll
  isOpen := tracked.isOpen
  running := tracked.running
  tame := tracked.tame
  numbered := tracked.numbered
  distinct := tracked.distinct
  waits waiter member := by
    obtain ⟨plain, isScope, used, type⟩ := tracked.waits waiter member
    exact ⟨plain, isScope, used, type⟩
  entries holds := absurd holds List.not_mem_nil
  used := by
    rintro ns kind ⟨kinds, member, _⟩
    exact absurd member List.not_mem_nil

end Tracked

/-! ## Deeds -/

/-- The deed concerns a plain key and tame listeners, and the resource is that of its kind. -/
def Deed.IsLawful (typeOf : GroupVersionKind → Option ResourceType) : Deed → Prop
  | .serve key resource =>
      key.IsPlain ∧ typeOf key.groupVersionKind = some (.ofResource resource)
  | .watch key resource listener _ =>
      key.IsPlain ∧ typeOf key.groupVersionKind = some (.ofResource resource) ∧
        listener.isTame = true
  | .forget kind resource => typeOf kind = some (.ofResource resource)
  | _ => True

/-- Every lawful deed keeps the records in step. -/
theorem Tracked.perform {typeOf : GroupVersionKind → Option ResourceType}
    (injective : ∀ {kind other : GroupVersionKind} {type : ResourceType},
      typeOf kind = some type → typeOf other = some type → kind = other)
    {store : Store} (tracked : Tracked typeOf store.holdings) {deed : Deed}
    (lawful : deed.IsLawful typeOf) : Tracked typeOf (store.perform deed).holdings := by
  cases deed with
  | nothing => exact tracked
  | serve key resource => exact (tracked.serve lawful.1 lawful.2).1
  | watch key resource listener type =>
      exact (tracked.serve lawful.1 lawful.2.1).1.subscribe _ type key lawful.2.2
  | forget kind resource => exact tracked.forgetKind injective lawful
  | reset => exact tracked.reset
  | changeClient client =>
      exact tracked.of_steady (Informers.steady_changeClient store.informers client)
        tracked.tame ⟨rfl, rfl, rfl, rfl, rfl⟩

end ClusterCache
