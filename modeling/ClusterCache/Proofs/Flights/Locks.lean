import ClusterCache.Flights

/-!
# Who holds a lock

A lock has one holder at most. Whoever holds it keeps it until it leaves: neither those who join nor
those who give up waiting take it away. A lock on the register is taken off it only by name.
-/

namespace ClusterCache

namespace Flight

variable {flight : Flight} {call other : CallId}

theorem holder_join (holds : flight.holder = some call) :
    (flight.join other).holder = some call := by
  simp [join, holds]

theorem holder_leave_of_ne (holds : flight.holder = some call) (different : call ≠ other) :
    (flight.leave other).holder = some call := by
  simp [leave, holds, different]

end Flight

namespace Flights

variable {flights : Flights} {id : FlightId} {call other : CallId} {access key : AccessKey}

theorem isHolder_iff :
    flights.isHolder id call = true ↔
      ∃ flight, flights.locks[id]? = some flight ∧ flight.holder = some call := by
  simp [isHolder, Option.any_eq_true]

theorem holder_unique (holds : flights.isHolder id call = true)
    (otherHolds : flights.isHolder id other = true) : call = other := by
  obtain ⟨flight, found, holder⟩ := isHolder_iff.1 holds
  obtain ⟨same, sameFound, otherHolder⟩ := isHolder_iff.1 otherHolds
  rw [found] at sameFound
  rw [← Option.some.inj sameFound, holder] at otherHolder
  exact Option.some.inj otherHolder

/-- What leaves the holder of every lock leaves the holder of the locks as changed. -/
theorem isHolder_modify (holds : flights.isHolder id call = true)
    {change : Flight → Flight} (changed : FlightId)
    (kept : ∀ flight : Flight, flight.holder = some call → (change flight).holder = some call)
    (register : Table AccessKey FlightId) :
    (Flights.mk (flights.locks.modify changed change) register).isHolder id call = true := by
  obtain ⟨flight, found, holder⟩ := isHolder_iff.1 holds
  by_cases same : changed = id
  · exact isHolder_iff.2 ⟨change flight, by simp [same, found], kept flight holder⟩
  · exact isHolder_iff.2 ⟨flight, by simp [same, found], holder⟩

theorem isHolder_join (holds : flights.isHolder id call = true) (access : AccessKey)
    (other : CallId) : (flights.join access other).1.isHolder id call = true := by
  unfold join
  split
  · exact isHolder_modify holds _ (fun _ => Flight.holder_join) _
  · obtain ⟨flight, found, holder⟩ := isHolder_iff.1 holds
    have used : id < flights.locks.length := (List.getElem?_eq_some_iff.1 found).1
    exact isHolder_iff.2 ⟨flight, by simp [List.getElem?_append_left used, found], holder⟩

theorem isHolder_leave_of_ne (holds : flights.isHolder id call = true) (left : FlightId)
    (different : call ≠ other) : (flights.leave left other).isHolder id call = true :=
  isHolder_modify holds left (fun _ holder => Flight.holder_leave_of_ne holder different) _

@[simp] theorem isHolder_strike (flights : Flights) (access : AccessKey) (struck id : FlightId)
    (call : CallId) :
    (flights.strike access struck).isHolder id call = flights.isHolder id call := by
  unfold strike
  split <;> rfl

/-! ## The register -/

/-- Whoever joins for a key joins the lock that is then on the register for it. -/
theorem register_join_self (flights : Flights) (access : AccessKey) (call : CallId) :
    (flights.join access call).1.register.get? access = some (flights.join access call).2 := by
  unfold join
  split
  · rename_i registered
    exact registered
  · exact Table.get?_insert_self _ _ _

theorem register_join_of_some (registered : flights.register.get? access = some id)
    (key : AccessKey) (call : CallId) :
    (flights.join key call).1.register.get? access = some id := by
  unfold join
  split
  · exact registered
  · rename_i unregistered
    have different : access ≠ key := by
      rintro rfl
      rw [registered] at unregistered
      cases unregistered
    rw [Table.get?_insert_of_ne _ different]
    exact registered

/-- Nothing but the lock that is struck leaves the register. -/
theorem register_strike_of_some {struck : FlightId}
    (registered : flights.register.get? access = some id)
    (other : access ≠ key ∨ id ≠ struck) :
    (flights.strike key struck).register.get? access = some id := by
  unfold strike
  split
  · rename_i onRegister
    have different : access ≠ key := by
      rcases other with different | different
      · exact different
      · rintro rfl
        rw [registered] at onRegister
        exact absurd (Option.some.inj onRegister) different
    rw [Table.get?_erase_of_ne _ different]
    exact registered
  · exact registered

end Flights

end ClusterCache
