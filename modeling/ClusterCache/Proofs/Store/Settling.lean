import ClusterCache.Proofs.Store.Tracking

/-!
# What the records say once the waiters have settled

As long as the records are in step with the informers, a scope that reads as loading has a waiter
on the live informer of its kind. If that informer is synced, the waiter makes the scope read as
loaded; once no waiter has anything left to do, a scope reads as loading exactly as long as the
live informer of its kind is not synced.
-/

namespace ClusterCache

namespace Store

/-- The waiter has nothing to do yet. -/
def Waiting (store : Store) (waiter : Waiter) : Prop :=
  (store.informers.informer waiter.informer).syncVerdict?
    (store.informers.isStopped waiter.informer) store.stopped = none

/-- No waiter has anything to do. -/
def Settled (store : Store) : Prop :=
  ∀ waiter ∈ store.waiters, store.Waiting waiter

theorem not_synced_of_waiting {store : Store} {waiter : Waiter} (waiting : store.Waiting waiter) :
    store.informers.isStopped waiter.informer = false ∧
      (store.informers.informer waiter.informer).replica.synced = false := by
  unfold Waiting Informer.syncVerdict? at waiting
  cases stale : store.informers.isStopped waiter.informer with
  | true => simp [stale] at waiting
  | false =>
      cases synced : (store.informers.informer waiter.informer).replica.synced with
      | true => simp [stale, synced] at waiting
      | false => exact ⟨rfl, rfl⟩

/-- A waiter on a live informer that is synced notes that its scope is loaded. -/
theorem isLoaded_wake {store : Store} {waiter : Waiter}
    (going : store.informers.isStopped waiter.informer = false)
    (synced : (store.informers.informer waiter.informer).replica.synced = true) :
    (store.wake waiter).loading.isLoaded waiter.scope = true := by
  have recorded : (store.wake waiter).loading = store.loading.record waiter.scope true :=
    congrArg Holdings.loading (holdings_wake_of_synced going synced)
  rw [recorded]
  exact Loading.isLoaded_record_self store.loading waiter.scope true

/-- A waiter that has something to do is done with it when it is woken. -/
theorem length_waiters_wake {store : Store} {waiter : Waiter} (member : waiter ∈ store.waiters)
    (due : ¬ store.Waiting waiter) :
    (store.wake waiter).waiters.length < store.waiters.length := by
  have left : (store.wake waiter).waiters =
      store.waiters.filter fun other => other.id ≠ waiter.id := by
    unfold Waiting at due
    unfold wake
    simp only
    split
    · rename_i waiting
      exact absurd waiting due
    · rfl
  rw [left]
  exact List.length_filter_lt_length_iff_exists.2 ⟨waiter, member, by simp⟩

/-- What the records and the waiters guarantee about the live informers. -/
structure BorneOut (typeOf : GroupVersionKind → Option ResourceType) (store : Store) :
    Prop where
  plain : ∀ text entry, store.loading.entries.get? text = some entry →
    ∃ key : Key, key.IsPlain ∧ text = key.scope.text
  loading : ∀ key : Key, key.IsPlain → ∀ entry,
    store.loading.entries.get? key.scope.text = some entry → entry.loaded = false →
    ∃ waiter ∈ store.waiters, waiter.scope = key.scope ∧
      store.informers.Serves typeOf key.groupVersionKind waiter.informer
  loaded : ∀ key : Key, key.IsPlain → ∀ entry,
    store.loading.entries.get? key.scope.text = some entry → entry.loaded = true →
    ∃ id, store.informers.Serves typeOf key.groupVersionKind id ∧
      (store.informers.informer id).replica.synced = true
  used : ∀ ns kind, store.usage.isUsed ns kind = true →
    ∃ id, store.informers.Serves typeOf kind id
  /-- As soon as the live informer is synced, a waiter makes the scope read as loaded. -/
  loads : ∀ key : Key, key.IsPlain → store.loading.isLoaded key.scope = false →
    ∀ id, store.informers.Serves typeOf key.groupVersionKind id →
      (store.informers.informer id).replica.synced = true →
      ∃ waiter ∈ store.waiters, (store.wake waiter).loading.isLoaded key.scope = true
  settled : store.Settled → ∀ key : Key, key.IsPlain → ∀ call, ∃ answer,
    (store.enter call (.isLoading key)).2 = .finished (.ok (.loading answer)) ∧
      (answer = true ↔ store.loading.isRecorded key.scope = true ∧
        ∃ id, store.informers.Serves typeOf key.groupVersionKind id ∧
          (store.informers.informer id).replica.synced = false)
  pending : store.Settled → ∀ waiter ∈ store.waiters,
    store.informers.Serves typeOf waiter.scope.groupVersionKind waiter.informer ∧
      (store.informers.informer waiter.informer).replica.synced = false

end Store

namespace Tracked

variable {typeOf : GroupVersionKind → Option ResourceType}

/-- The entry under the text of a plain scope is about the kind of that scope. -/
theorem accounted {held : Holdings} (tracked : Tracked typeOf held) {key : Key}
    (plain : key.IsPlain) {entry : ScopeEntry}
    (found : held.loading.entries.get? key.scope.text = some entry) :
    ∃ id, Accounted typeOf held.informers held.waiters entry key id := by
  have holds : held.loading.Holds key.scope.text entry := Table.mem_entries_of_get? found
  obtain ⟨other, id, sameText, accounted⟩ := tracked.entries holds
  have same : key.scope = other.scope :=
    Key.scope_eq_of_text_eq plain accounted.plain sameText
  have sameApiVersion : other.apiVersion = key.apiVersion :=
    (congrArg Key.apiVersion same).symm
  have sameKind : other.kind = key.kind := (congrArg Key.kind same).symm
  have sameGroupVersionKind : other.groupVersionKind = key.groupVersionKind :=
    (congrArg Key.groupVersionKind same).symm
  refine ⟨id, ?_⟩
  constructor
  case plain => exact plain
  case apiVersion => exact accounted.apiVersion.trans sameApiVersion
  case kind => exact accounted.kind.trans sameKind
  case serves =>
    rw [← sameGroupVersionKind]
    exact accounted.serves
  case loaded => exact accounted.loaded
  case loading =>
    rw [same]
    exact accounted.loading

variable {store : Store} (tracked : Tracked typeOf store.holdings) {key : Key}

include tracked

theorem find?_waiters {waiter : Waiter} (member : waiter ∈ store.waiters) :
    (store.waiters.find? fun entry => entry.id = waiter.id) = some waiter := by
  cases found : store.waiters.find? fun entry => entry.id = waiter.id with
  | none =>
      have absent := List.find?_eq_none.1 found waiter member
      simp at absent
  | some other =>
      have same : other.id = waiter.id := by simpa using List.find?_some found
      have otherMember := List.mem_of_find?_eq_some found
      rw [tracked.eq_of_id_eq otherMember member same]

/-- A scope that reads as loading has a waiter on the live informer of its kind. -/
theorem waiter_of_not_isLoaded (plain : key.IsPlain)
    (unloaded : store.loading.isLoaded key.scope = false) :
    ∃ waiter ∈ store.waiters, waiter.scope = key.scope ∧
      store.informers.Serves typeOf key.groupVersionKind waiter.informer := by
  obtain ⟨entry, found, entryUnloaded⟩ := Loading.isLoaded_eq_false_iff.1 unloaded
  obtain ⟨id, accounted⟩ := tracked.accounted plain found
  obtain ⟨waiter, member, isScope, isInformer⟩ := accounted.loading entryUnloaded
  refine ⟨waiter, member, isScope, ?_⟩
  rw [isInformer]
  exact accounted.serves

theorem serves_of_waiting {waiter : Waiter} (member : waiter ∈ store.waiters)
    (waiting : store.Waiting waiter) :
    store.informers.Serves typeOf waiter.scope.groupVersionKind waiter.informer := by
  obtain ⟨_, _, used, type⟩ := tracked.waits waiter member
  obtain ⟨going, _⟩ := Store.not_synced_of_waiting waiting
  exact ⟨_, type, tracked.owned.owned used going, going⟩

/-- Once the waiters have settled, a scope reads as loading as long as it is recorded and the live
informer of its kind is not synced. -/
theorem isLoaded_eq_false_iff_of_settled (settled : store.Settled) (plain : key.IsPlain) :
    store.loading.isLoaded key.scope = false ↔
      store.loading.isRecorded key.scope = true ∧
        ∃ id, store.informers.Serves typeOf key.groupVersionKind id ∧
          (store.informers.informer id).replica.synced = false := by
  constructor
  · intro unloaded
    obtain ⟨entry, found, _⟩ := Loading.isLoaded_eq_false_iff.1 unloaded
    obtain ⟨waiter, member, _, serves⟩ := tracked.waiter_of_not_isLoaded plain unloaded
    obtain ⟨_, unsynced⟩ := Store.not_synced_of_waiting (settled waiter member)
    exact ⟨Loading.isRecorded_iff.2 ⟨entry, found⟩, waiter.informer, serves, unsynced⟩
  · rintro ⟨recorded, id, serves, unsynced⟩
    obtain ⟨entry, found⟩ := Loading.isRecorded_iff.1 recorded
    obtain ⟨other, accounted⟩ := tracked.accounted plain found
    refine Loading.isLoaded_eq_false_iff.2 ⟨entry, found, ?_⟩
    cases loaded : entry.loaded with
    | false => rfl
    | true =>
        -- A loaded scope has a live informer that is synced, and there is no other of its kind.
        have synced : (store.informers.informer other).replica.synced = true :=
          accounted.loaded loaded
        have same : other = id := accounted.serves.unique serves
        rw [same, unsynced] at synced
        cases synced

theorem borneOut : store.BorneOut typeOf where
  plain text entry found := by
    have holds : store.loading.Holds text entry := Table.mem_entries_of_get? found
    obtain ⟨key, id, sameText, accounted⟩ := tracked.entries holds
    exact ⟨key, accounted.plain, sameText⟩
  loading key plain entry found unloaded :=
    tracked.waiter_of_not_isLoaded plain (Loading.isLoaded_eq_false_iff.2 ⟨entry, found, unloaded⟩)
  loaded key plain entry found loaded := by
    obtain ⟨id, accounted⟩ := tracked.accounted plain found
    exact ⟨id, accounted.serves, accounted.loaded loaded⟩
  used ns kind used := tracked.used (Usage.holds_of_isUsed used)
  loads key plain unloaded id serves synced := by
    obtain ⟨waiter, member, isScope, waiterServes⟩ := tracked.waiter_of_not_isLoaded plain unloaded
    rw [← waiterServes.unique serves] at synced
    obtain ⟨_, _, _, going⟩ := waiterServes
    refine ⟨waiter, member, ?_⟩
    rw [← isScope]
    exact Store.isLoaded_wake going synced
  settled settled key plain call := by
    refine ⟨!store.loading.isLoaded key.scope, rfl, ?_⟩
    rw [Bool.not_eq_true']
    exact tracked.isLoaded_eq_false_iff_of_settled settled plain
  pending settled waiter member :=
    ⟨tracked.serves_of_waiting member (settled waiter member),
      (Store.not_synced_of_waiting (settled waiter member)).2⟩

end Tracked

end ClusterCache
