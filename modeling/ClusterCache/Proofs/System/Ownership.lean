import ClusterCache.Proofs.Store.Waiters
import ClusterCache.Proofs.System.Moves

/-!
# Owners of loops and waiters along a run

However a system moves, a live informer is the current one of its type, and a waiter is on an
informer that was there when the waiter was started.
-/

namespace ClusterCache.System

variable {system : System} {move : Move}

theorem owned_apply (owned : system.store.informers.Owned) (move : Move) :
    (system.apply move).store.informers.Owned := by
  by_cases isCall : move.isCall = true
  · rw [informers_apply isCall]
    exact Store.owned_perform owned _
  · cases move with
    | send id item =>
        have steady : system.store.informers.Steady
            (system.store.informers.modify id (·.send item)) := by
          refine Informers.steady_modify _ id (Informer.token_send _ item)
            (Informer.type_send _ item) ?_
          rw [Informer.replica_send]
          exact fun synced => synced
        exact owned.of_steady steady
    | endStream id =>
        have steady : system.store.informers.Steady
            (system.store.informers.modify id (·.endStream)) :=
          Informers.steady_modify _ id rfl rfl fun synced => synced
        exact owned.of_steady steady
    | turn id => exact (Store.keeps_turn system.store id).owned owned
    | wake waiter =>
        simp only [apply, modify]
        split
        · rw [Store.informers_wake]
          exact owned
        · exact owned
    | shutdown => exact owned.shutdown
    | begin operation | enter call | takeLock call | answer call answer | giveUp call =>
        exact absurd rfl isCall
    | _ => exact owned

theorem owned_run (owned : system.store.informers.Owned) (moves : List Move) :
    (system.run moves).store.informers.Owned := by
  induction moves generalizing system with
  | nil => exact owned
  | cons move rest inductionHypothesis => exact inductionHypothesis (owned_apply owned move)

/-- By every move waiters only come as they are started, or leave. -/
theorem recruits_apply (owned : system.store.informers.Owned) (move : Move) :
    system.store.holdings.Recruits (system.apply move).store.holdings := by
  by_cases isCall : move.isCall = true
  · rw [holdings_apply isCall]
    exact Store.recruits_perform owned _
  · cases move with
    | turn id =>
        have keeps := Store.keeps_turn system.store id
        refine .of_subset (persists_apply system (.turn id)).started keeps.waitersStarted ?_
        intro waiter member
        change waiter ∈ ((Store.surroundings id).turn system.store).waiters at member
        rw [keeps.waiters] at member
        exact member
    | wake waiter =>
        simp only [apply, modify]
        split
        · exact Store.recruits_wake _
        · exact .refl _
    | begin operation | enter call | takeLock call | answer call answer | giveUp call =>
        exact absurd rfl isCall
    | _ => exact .of_subset (persists_apply system _).started rfl fun _ member => member

theorem recruits_run (owned : system.store.informers.Owned) (moves : List Move) :
    system.store.holdings.Recruits (system.run moves).store.holdings := by
  induction moves generalizing system with
  | nil => exact .refl _
  | cons move rest inductionHypothesis =>
      exact (recruits_apply owned move).trans (inductionHypothesis (owned_apply owned move))

theorem waiter_used (config : StoreConfig) (client : ClientId) {moves : List Move}
    {waiter : Waiter} (member : waiter ∈ ((start config client).run moves).store.waiters) :
    waiter.informer < ((start config client).run moves).store.informers.started.length := by
  have owned : (start config client).store.informers.Owned :=
    Informers.owned_empty client config.ns
  have recruits := recruits_run owned moves
  rcases recruits.waiters waiter member with before | ⟨_, _, used⟩
  · exact absurd before List.not_mem_nil
  · exact used

end ClusterCache.System
