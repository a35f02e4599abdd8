import ClusterCache.Proofs.Store.Loops

/-!
# Where waiters come from

Waiters are numbered in the order in which they are started, each on an informer that is there by
then. No deed, no loop and no other waiter brings one back that has left.
-/

namespace ClusterCache

/-- Every waiter that is there later was there before, or it was started since, on an informer that
is there by then. -/
structure Holdings.Recruits (before after : Holdings) : Prop where
  informers : before.informers.started.length ≤ after.informers.started.length
  numbers : before.waitersStarted ≤ after.waitersStarted
  waiters : ∀ waiter ∈ after.waiters, waiter ∈ before.waiters ∨
    before.waitersStarted ≤ waiter.id ∧ waiter.id < after.waitersStarted ∧
      waiter.informer < after.informers.started.length

namespace Holdings.Recruits

theorem of_subset {before after : Holdings}
    (informers : before.informers.started.length ≤ after.informers.started.length)
    (numbers : after.waitersStarted = before.waitersStarted)
    (waiters : ∀ waiter ∈ after.waiters, waiter ∈ before.waiters) : before.Recruits after :=
  ⟨informers, Nat.le_of_eq numbers.symm, fun waiter member => Or.inl (waiters waiter member)⟩

theorem refl (held : Holdings) : held.Recruits held :=
  of_subset (Nat.le_refl _) rfl fun _ => id

theorem trans {first second third : Holdings} (left : first.Recruits second)
    (right : second.Recruits third) : first.Recruits third where
  informers := Nat.le_trans left.informers right.informers
  numbers := Nat.le_trans left.numbers right.numbers
  waiters waiter member := by
    rcases right.waiters waiter member with wasThere | ⟨late, numbered, used⟩
    · rcases left.waiters waiter wasThere with before | ⟨late, numbered, used⟩
      · exact Or.inl before
      · exact Or.inr ⟨late, Nat.lt_of_lt_of_le numbered right.numbers,
          Nat.lt_of_lt_of_le used right.informers⟩
    · exact Or.inr ⟨Nat.le_trans left.numbers late, numbered, used⟩

end Holdings.Recruits

namespace Store

variable {store : Store}

/-- Starting a waiter, whatever has been recorded meanwhile. -/
theorem recruits_startWaiter (loading : Loading) (usage : Usage) (scope : Key) {id : InformerId}
    (used : id < store.informers.started.length) :
    store.holdings.Recruits ({ store with loading, usage }.startWaiter scope id).holdings where
  informers := Nat.le_refl _
  numbers := Nat.le_succ _
  waiters waiter member := by
    rcases List.mem_append.1 member with before | isNew
    · exact Or.inl before
    · rw [List.mem_singleton.1 isNew]
      exact Or.inr ⟨Nat.le_refl _, Nat.lt_succ_self _, used⟩

theorem recruits_noteUse (key : Key) {id : InformerId}
    (used : id < store.informers.started.length) :
    store.holdings.Recruits (store.noteUse key id).holdings := by
  simp only [noteUse]
  split <;> split
  · exact recruits_startWaiter _ store.usage key.scope used
  · exact .refl _
  · exact recruits_startWaiter _ _ key.scope used
  · exact .of_subset (Nat.le_refl _) rfl fun _ member => member

/-- The informer for a resource is among those ever started. -/
theorem obtained_lt {informers : Informers Listener} (owned : informers.Owned)
    (resource : ApiResource) :
    (informers.obtain resource).2.1 < (informers.obtain resource).1.started.length := by
  unfold Informers.obtain
  cases reused : informers.reusable? resource with
  | some id => exact owned.used (Option.filter_eq_some_iff.1 reused).1
  | none =>
      simp only [Informers.length_started_start]
      exact Nat.lt_succ_self _

theorem recruits_serve (owned : store.informers.Owned) (key : Key) (resource : ApiResource) :
    store.holdings.Recruits (store.serve key resource).1.holdings := by
  have obtained : store.holdings.Recruits (store.obtainInformer resource).1.holdings := by
    refine .of_subset ?_ ?_ ?_
    · change store.informers.started.length ≤
        (store.obtainInformer resource).1.informers.started.length
      rw [informers_obtainInformer]
      exact (Informers.continues_obtain store.informers resource).started
    · simp only [obtainInformer]
      split <;> rfl
    · simp only [obtainInformer]
      split <;> exact fun _ => id
  refine obtained.trans (recruits_noteUse key ?_)
  rw [informers_obtainInformer]
  exact obtained_lt owned resource

theorem recruits_perform (owned : store.informers.Owned) (deed : Deed) :
    store.holdings.Recruits (store.perform deed).holdings := by
  cases deed with
  | nothing | reset | changeClient client => exact .of_subset (Nat.le_refl _) rfl fun _ => id
  | forget kind resource => exact .of_subset (Nat.le_refl _) rfl fun _ => id
  | serve key resource => exact recruits_serve owned key resource
  | watch key resource listener type =>
      refine (recruits_serve owned key resource).trans (.of_subset ?_ rfl fun _ => id)
      exact (continues_subscribe _ _ type key listener).started

theorem recruits_wake (waiter : Waiter) :
    store.holdings.Recruits (store.wake waiter).holdings := by
  unfold wake
  simp only
  split
  · exact .refl _
  · exact .of_subset (Nat.le_refl _) rfl fun _ member => (List.mem_filter.1 member).1

/-- A waiter on a stopped informer notes nothing. -/
theorem loading_wake_of_stopped {waiter : Waiter}
    (stopped : store.informers.isStopped waiter.informer = true) :
    (store.wake waiter).loading = store.loading :=
  congrArg Holdings.loading (holdings_wake_of_stopped stopped)

end Store

end ClusterCache
