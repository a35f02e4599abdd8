import ClusterCache.Proofs.Key.Text
import ClusterCache.Proofs.Scopes.Forgetting
import ClusterCache.Proofs.Store.Loops

/-!
# How the records spell their keys

As long as only keys without quotes are asked for, every entry of the loading record stands under
the text of such a key and repeats its API version and its kind, and no record lists anything twice.
So what is found under the text of a key was recorded for that key.
-/

namespace ClusterCache

/-- Everything that is recorded was recorded for keys without quotes, and nothing twice. -/
structure Holdings.Spelled (held : Holdings) : Prop where
  scopes : held.loading.entries.Distinct
  kinds : held.usage.scopes.Distinct
  entries : ∀ {text entry}, held.loading.Holds text entry →
    ∃ key : Key, key.IsUnquoted ∧ text = key.scope.text ∧
      entry.apiVersion = key.apiVersion ∧ entry.kind = key.kind
  waiters : ∀ waiter ∈ held.waiters,
    waiter.scope.IsUnquoted ∧ waiter.scope.scope = waiter.scope

/-- The deed records only a key without quotes. -/
def Deed.IsUnquoted : Deed → Prop
  | .serve key _ | .watch key .. => key.IsUnquoted
  | _ => True

namespace Store

theorem spelled_start (config : StoreConfig) (client : ClientId) :
    (start config client).holdings.Spelled where
  scopes := Table.distinct_empty
  kinds := Table.distinct_empty
  entries holds := absurd holds List.not_mem_nil
  waiters _ member := absurd member List.not_mem_nil

end Store

namespace Holdings.Spelled

/-- What is found under the text of a key without quotes was recorded for it. -/
theorem entry_eq {held : Holdings} (spelled : held.Spelled) {key : Key}
    (unquoted : key.IsUnquoted) {entry : ScopeEntry}
    (found : held.loading.entries.get? key.scope.text = some entry) :
    entry.apiVersion = key.apiVersion ∧ entry.kind = key.kind := by
  obtain ⟨other, otherUnquoted, sameText, apiVersion, kind⟩ :=
    spelled.entries (Table.mem_entries_of_get? found)
  have sameScope : key.scope = other.scope := unquoted.scope_eq otherUnquoted sameText
  simp only [Key.scope, Key.ofScope, Key.mk.injEq] at sameScope
  obtain ⟨_, sameVersion, sameKind, _⟩ := sameScope
  exact ⟨apiVersion.trans sameVersion.symm, kind.trans sameKind.symm⟩

/-- Only the informers and the registrations change, or waiters leave. -/
theorem of_same {before after : Holdings} (spelled : before.Spelled)
    (loading : after.loading = before.loading) (usage : after.usage = before.usage)
    (waiters : ∀ waiter ∈ after.waiters, waiter ∈ before.waiters) : after.Spelled where
  scopes := by
    rw [loading]
    exact spelled.scopes
  kinds := by
    rw [usage]
    exact spelled.kinds
  entries := by
    rw [loading]
    exact spelled.entries
  waiters waiter member := spelled.waiters waiter (waiters waiter member)

theorem record {held : Holdings} (spelled : held.Spelled) {scope : Key}
    (unquoted : scope.IsUnquoted) (isScope : scope.scope = scope) (loaded : Bool) :
    Spelled { held with loading := held.loading.record scope loaded } :=
  { spelled with
    scopes := Loading.distinct_record spelled.scopes scope loaded
    entries := by
      intro text entry holds
      rcases Loading.holds_of_record holds with ⟨isText, isEntry⟩ | ⟨before, _⟩
      · exact ⟨scope, unquoted, by rw [isText, isScope], by rw [isEntry], by rw [isEntry]⟩
      · exact spelled.entries before }

theorem noteUse {store : Store} (spelled : store.holdings.Spelled) {key : Key}
    (unquoted : key.IsUnquoted) (id : InformerId) :
    (store.noteUse key id).holdings.Spelled := by
  have used : (if store.usage.isUsed key.ns key.groupVersionKind then store
      else { store with
        usage := store.usage.record key.ns key.groupVersionKind true }).holdings.Spelled := by
    split
    · exact spelled
    · exact { spelled with kinds := Usage.distinct_record spelled.kinds _ _ _ }
  simp only [Store.noteUse]
  generalize (if store.usage.isUsed key.ns key.groupVersionKind then store
      else { store with
        usage := store.usage.record key.ns key.groupVersionKind true }) = noted at used
  split
  · refine { used.record unquoted.scope key.scope_scope false with waiters := ?_ }
    intro waiter member
    rcases List.mem_append.1 member with before | isNew
    · exact used.waiters waiter before
    · rw [List.mem_singleton.1 isNew]
      exact ⟨unquoted.scope, key.scope_scope⟩
  · exact used

theorem serve {store : Store} (spelled : store.holdings.Spelled) {key : Key}
    (unquoted : key.IsUnquoted) (resource : ApiResource) :
    (store.serve key resource).1.holdings.Spelled := by
  have obtained : (store.obtainInformer resource).1.holdings.Spelled := by
    refine spelled.of_same ?_ ?_ ?_
    · simp only [Store.obtainInformer]
      split <;> rfl
    · simp only [Store.obtainInformer]
      split <;> rfl
    · simp only [Store.obtainInformer]
      split <;> exact fun _ => id
  exact obtained.noteUse unquoted _

theorem perform {store : Store} (spelled : store.holdings.Spelled) {deed : Deed}
    (unquoted : deed.IsUnquoted) : (store.perform deed).holdings.Spelled := by
  cases deed with
  | nothing => exact spelled
  | serve key resource => exact spelled.serve unquoted resource
  | watch key resource listener type =>
      exact (spelled.serve unquoted resource).of_same rfl rfl fun _ => id
  | forget kind resource =>
      exact
        { scopes := Loading.distinct_forgetKind spelled.scopes _ _
          kinds := Usage.distinct_forgetKind spelled.kinds kind
          entries := fun holds => spelled.entries (Loading.holds_of_forgetKind holds).1
          waiters := spelled.waiters }
  | reset =>
      exact
        { scopes := Table.distinct_empty
          kinds := Table.distinct_empty
          entries := fun holds => absurd holds List.not_mem_nil
          waiters := spelled.waiters }
  | changeClient client => exact spelled.of_same rfl rfl fun _ => id

theorem turn {store : Store} (spelled : store.holdings.Spelled) (id : InformerId) :
    ((Store.surroundings id).turn store).holdings.Spelled := by
  have keeps := Store.keeps_turn store id
  refine spelled.of_same keeps.loading keeps.usage fun waiter member => ?_
  change waiter ∈ ((Store.surroundings id).turn store).waiters at member
  rwa [keeps.waiters] at member

theorem wake {store : Store} (spelled : store.holdings.Spelled) {waiter : Waiter}
    (member : waiter ∈ store.waiters) : (store.wake waiter).holdings.Spelled := by
  obtain ⟨unquoted, isScope⟩ := spelled.waiters waiter member
  have fewer : ∀ other ∈ store.waiters.filter fun other => other.id ≠ waiter.id,
      other ∈ store.waiters := fun other inFewer => (List.mem_filter.1 inFewer).1
  cases stale : store.informers.isStopped waiter.informer with
  | true =>
      rw [Store.holdings_wake_of_stopped stale]
      exact spelled.of_same rfl rfl fewer
  | false =>
      cases synced : (store.informers.informer waiter.informer).replica.synced with
      | true =>
          rw [Store.holdings_wake_of_synced stale synced]
          exact (spelled.record unquoted isScope true).of_same rfl rfl fewer
      | false =>
          simp only [Store.wake, Informer.syncVerdict?, stale, synced]
          split
          · exact spelled
          · rename_i verdict _
            cases verdict with
            | false => exact spelled.of_same rfl rfl fewer
            | true => simp_all

end Holdings.Spelled

end ClusterCache
