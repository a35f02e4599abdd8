import ClusterCache.Proofs.Flights.Locks
import Mathlib.Data.List.Basic

/-!
# Lining up at a lock

The holder of a lock and those who wait for it stand in one line, in the order of arrival. Whoever
joins goes to the end of the line, whoever leaves steps out of it, and the head of the line holds
the lock.
-/

namespace ClusterCache

namespace Flight

variable {flight : Flight} {call : CallId}

/-- The holder, followed by those who wait. -/
def line (flight : Flight) : List CallId := flight.holder.toList ++ flight.waiting

/-- Nobody stands twice in the line, and nobody waits while the lock is free. -/
structure Lined (flight : Flight) : Prop where
  distinct : flight.line.Nodup
  held : flight.holder = none → flight.waiting = []

theorem Lined.holder_eq (lined : flight.Lined) : flight.holder = flight.line.head? := by
  unfold line
  cases holder : flight.holder with
  | none => simp [lined.held holder]
  | some call => rfl

theorem Lined.line_join (lined : flight.Lined) (call : CallId) :
    (flight.join call).line = flight.line ++ [call] := by
  unfold line join
  cases holder : flight.holder with
  | none => simp [lined.held holder]
  | some other => simp

theorem Lined.join (lined : flight.Lined) (isNew : call ∉ flight.line) :
    (flight.join call).Lined where
  distinct := by
    rw [lined.line_join call, List.nodup_append]
    refine ⟨lined.distinct, List.nodup_cons.2 ⟨List.not_mem_nil, List.nodup_nil⟩, ?_⟩
    intro other member last isLast same
    rw [List.mem_singleton.1 isLast] at same
    exact isNew (same ▸ member)
  held := by
    unfold Flight.join
    cases holder : flight.holder <;> simp

/-- Stepping out of the line hands the lock on if the head steps out. -/
theorem Lined.line_leave (lined : flight.Lined) (call : CallId) :
    (flight.leave call).line = flight.line.filter (· ≠ call) := by
  have distinct := lined.distinct
  unfold line at distinct ⊢
  unfold Flight.leave
  by_cases holds : flight.holder = some call
  · rw [holds] at distinct ⊢
    have others : ∀ other ∈ flight.waiting, other ≠ call := by
      rintro other member rfl
      exact (List.nodup_cons.1 distinct).1 member
    have kept : flight.waiting.filter (· ≠ call) = flight.waiting := by
      refine List.filter_eq_self.2 fun other member => ?_
      simpa using others other member
    cases waiting : flight.waiting with
    | nil => simp
    | cons next rest =>
        rw [waiting] at kept
        simpa using kept.symm
  · cases holder : flight.holder with
    | none => simp [lined.held holder]
    | some other =>
        have different : other ≠ call := by
          rintro rfl
          exact holds holder
        simp [different]

theorem Lined.leave (lined : flight.Lined) (call : CallId) : (flight.leave call).Lined where
  distinct := by
    rw [lined.line_leave call]
    exact lined.distinct.filter _
  held := by
    unfold Flight.leave
    split
    · split
      · exact nofun
      · rename_i nobody
        exact fun _ => nobody
    · intro free
      rw [lined.held free]
      rfl

@[simp] theorem access_join (flight : Flight) (call : CallId) :
    (flight.join call).access = flight.access := by
  unfold Flight.join
  split <;> rfl

@[simp] theorem access_leave (flight : Flight) (call : CallId) :
    (flight.leave call).access = flight.access := by
  unfold Flight.leave
  split
  · split <;> rfl
  · rfl

end Flight

namespace Flights

variable {flights : Flights} {id : FlightId} {call other : CallId} {access : AccessKey}

/-- Who stands in line at a lock; nobody at one that was not made yet. -/
def line (flights : Flights) (id : FlightId) : List CallId :=
  (flights.locks[id]?.map Flight.line).getD []

def access? (flights : Flights) (id : FlightId) : Option AccessKey :=
  flights.locks[id]?.map Flight.access

/-- At every lock calls stand in line, and the register lists every lock under what it is for. -/
structure Lined (flights : Flights) : Prop where
  lined : ∀ flight ∈ flights.locks, flight.Lined
  registered : ∀ {access id}, flights.register.get? access = some id →
    flights.access? id = some access

theorem lined_empty : Flights.empty.Lined where
  lined _ member := absurd member List.not_mem_nil
  registered listed := by cases listed

theorem Lined.at (lined : flights.Lined) {flight : Flight}
    (found : flights.locks[id]? = some flight) : flight.Lined :=
  lined.lined flight (List.mem_of_getElem? found)

theorem line_of_getElem? {flight : Flight} (found : flights.locks[id]? = some flight) :
    flights.line id = flight.line := by
  simp [line, found]

theorem access?_of_getElem? {flight : Flight} (found : flights.locks[id]? = some flight) :
    flights.access? id = some flight.access := by
  simp [access?, found]

theorem Lined.nodup_line (lined : flights.Lined) (id : FlightId) : (flights.line id).Nodup := by
  cases found : flights.locks[id]? with
  | none => simp [line, found]
  | some flight =>
      rw [line_of_getElem? found]
      exact (lined.at found).distinct

/-- The head of the line holds the lock. -/
theorem Lined.isHolder_iff (lined : flights.Lined) :
    flights.isHolder id call = true ↔ (flights.line id).head? = some call := by
  rw [Flights.isHolder_iff]
  cases found : flights.locks[id]? with
  | none => simp [line, found]
  | some flight =>
      rw [line_of_getElem? found, ← (lined.at found).holder_eq]
      simp

/-! ## Joining -/

/-- Whoever joins goes to the end of the line, at a lock for what is asked. -/
theorem Lined.lock_join_self (lined : flights.Lined) (access : AccessKey) (call : CallId) :
    ∃ flight : Flight, flight.Lined ∧ flight.access = access ∧
      flight.line = flights.line (flights.join access call).2 ∧
      (∀ key, flights.access? (flights.join access call).2 = some key → key = access) ∧
      (flights.join access call).1.locks[(flights.join access call).2]? =
        some (flight.join call) := by
  unfold Flights.join
  cases registered : flights.register.get? access with
  | none =>
      refine ⟨⟨access, none, []⟩, ⟨List.nodup_nil, fun _ => rfl⟩, rfl, ?_, ?_, ?_⟩
      · simp [line, Flight.line]
      · simp [access?]
      · simp [Flight.join]
  | some id =>
      have listed := lined.registered registered
      cases found : flights.locks[id]? with
      | none => simp [access?, found] at listed
      | some flight =>
          rw [access?_of_getElem? found] at listed
          refine ⟨flight, lined.at found, Option.some.inj listed, ?_, ?_, ?_⟩
          · exact (line_of_getElem? found).symm
          · intro key isFor
            rw [access?_of_getElem? found, listed] at isFor
            exact (Option.some.inj isFor).symm
          · simp [found]

theorem lock_join_of_ne (flights : Flights) (access : AccessKey) (call : CallId)
    (different : id ≠ (flights.join access call).2) :
    (flights.join access call).1.locks[id]? = flights.locks[id]? := by
  unfold Flights.join at different ⊢
  cases registered : flights.register.get? access with
  | none =>
      simp only [registered] at different
      rcases Nat.lt_or_ge id flights.locks.length with used | unused
      · exact List.getElem?_append_left used
      · have beyond : flights.locks.length < id := Nat.lt_of_le_of_ne unused (Ne.symm different)
        rw [List.getElem?_eq_none unused, List.getElem?_eq_none]
        rw [List.length_append]
        exact beyond
  | some lock =>
      simp only [registered] at different
      simp [Ne.symm different]

theorem Lined.line_join_self (lined : flights.Lined) (access : AccessKey) (call : CallId) :
    (flights.join access call).1.line (flights.join access call).2 =
      flights.line (flights.join access call).2 ++ [call] := by
  obtain ⟨flight, isLined, _, sameLine, _, found⟩ := lined.lock_join_self access call
  rw [line_of_getElem? found, isLined.line_join call, sameLine]

theorem Lined.access?_join_self (lined : flights.Lined) (access : AccessKey) (call : CallId) :
    (flights.join access call).1.access? (flights.join access call).2 = some access := by
  obtain ⟨flight, _, same, _, _, found⟩ := lined.lock_join_self access call
  rw [access?_of_getElem? found, Flight.access_join, same]

theorem line_join_of_ne (flights : Flights) (access : AccessKey) (call : CallId)
    (different : id ≠ (flights.join access call).2) :
    (flights.join access call).1.line id = flights.line id := by
  unfold line
  rw [lock_join_of_ne flights access call different]

theorem access?_join_of_ne (flights : Flights) (access : AccessKey) (call : CallId)
    (different : id ≠ (flights.join access call).2) :
    (flights.join access call).1.access? id = flights.access? id := by
  unfold access?
  rw [lock_join_of_ne flights access call different]

/-- No lock becomes one for something else. -/
theorem Lined.access?_join_of_some (lined : flights.Lined) {key : AccessKey}
    (isFor : flights.access? id = some key) (access : AccessKey) (call : CallId) :
    (flights.join access call).1.access? id = some key := by
  by_cases same : id = (flights.join access call).2
  · subst same
    obtain ⟨_, _, _, _, onlyFor, _⟩ := lined.lock_join_self access call
    rw [onlyFor key isFor]
    exact lined.access?_join_self access call
  · rw [access?_join_of_ne flights access call same]
    exact isFor

theorem register_of_join {key : AccessKey}
    (listed : (flights.join access call).1.register.get? key = some id) :
    flights.register.get? key = some id ∨ key = access ∧ id = (flights.join access call).2 := by
  unfold Flights.join at listed ⊢
  cases registered : flights.register.get? access with
  | some lock =>
      simp only [registered] at listed
      exact Or.inl listed
  | none =>
      simp only [registered, Table.get?_insert] at listed
      split at listed
      · rename_i same
        exact Or.inr ⟨same, (Option.some.inj listed).symm⟩
      · exact Or.inl listed

theorem Lined.join (lined : flights.Lined) {access : AccessKey}
    (isNew : call ∉ flights.line (flights.join access call).2) :
    (flights.join access call).1.Lined where
  lined := by
    intro joined member
    obtain ⟨id, found⟩ := List.mem_iff_getElem?.1 member
    by_cases same : id = (flights.join access call).2
    · subst same
      obtain ⟨flight, isLined, _, sameLine, _, joinedFound⟩ := lined.lock_join_self access call
      rw [joinedFound] at found
      rw [← Option.some.inj found]
      refine isLined.join ?_
      rw [sameLine]
      exact isNew
    · rw [lock_join_of_ne flights access call same] at found
      exact lined.at found
  registered := by
    intro key id listed
    rcases register_of_join listed with before | ⟨rfl, rfl⟩
    · exact lined.access?_join_of_some (lined.registered before) access call
    · exact lined.access?_join_self key call

/-! ## Leaving -/

theorem lock_leave (flights : Flights) (left id : FlightId) (call : CallId) :
    (flights.leave left call).locks[id]? =
      flights.locks[id]?.map fun flight => if left = id then flight.leave call else flight :=
  List.getElem?_modify _ _ _ _

/-- Whoever leaves steps out of the line. -/
theorem Lined.line_leave_self (lined : flights.Lined) (id : FlightId) (call : CallId) :
    (flights.leave id call).line id = (flights.line id).filter (· ≠ call) := by
  unfold line
  rw [lock_leave]
  cases found : flights.locks[id]? with
  | none => rfl
  | some flight =>
      simp only [Option.map_some, if_true, Option.getD_some]
      exact (lined.at found).line_leave call

theorem line_leave_of_ne (flights : Flights) {left id : FlightId} (call : CallId)
    (different : id ≠ left) : (flights.leave left call).line id = flights.line id := by
  unfold line
  rw [lock_leave]
  simp [Ne.symm different]

@[simp] theorem access?_leave (flights : Flights) (left id : FlightId) (call : CallId) :
    (flights.leave left call).access? id = flights.access? id := by
  unfold access?
  rw [lock_leave]
  cases flights.locks[id]? with
  | none => rfl
  | some flight => by_cases same : left = id <;> simp [same]

theorem Lined.leave (lined : flights.Lined) (left : FlightId) (call : CallId) :
    (flights.leave left call).Lined where
  lined := by
    intro changed member
    obtain ⟨id, found⟩ := List.mem_iff_getElem?.1 member
    rw [lock_leave] at found
    obtain ⟨flight, before, same⟩ := Option.map_eq_some_iff.1 found
    rw [← same]
    split
    · exact (lined.at before).leave call
    · exact lined.at before
  registered listed := by
    rw [access?_leave]
    exact lined.registered listed

/-! ## Striking -/

@[simp] theorem locks_strike (flights : Flights) (access : AccessKey) (id : FlightId) :
    (flights.strike access id).locks = flights.locks := by
  unfold strike
  split <;> rfl

@[simp] theorem line_strike (flights : Flights) (access : AccessKey) (struck id : FlightId) :
    (flights.strike access struck).line id = flights.line id := by
  simp [line]

@[simp] theorem access?_strike (flights : Flights) (access : AccessKey) (struck id : FlightId) :
    (flights.strike access struck).access? id = flights.access? id := by
  simp [access?]

/-- Striking adds nothing to the register, and what is struck is not on it any more. -/
theorem register_of_strike {key : AccessKey} {struck : FlightId}
    (listed : (flights.strike access struck).register.get? key = some id) :
    flights.register.get? key = some id ∧ ¬ (key = access ∧ id = struck) := by
  unfold strike at listed
  split at listed
  · rename_i onRegister
    by_cases same : key = access
    · subst same
      rw [Table.get?_erase_self] at listed
      cases listed
    · rw [Table.get?_erase_of_ne _ same] at listed
      exact ⟨listed, fun both => same both.1⟩
  · rename_i offRegister
    refine ⟨listed, ?_⟩
    rintro ⟨rfl, rfl⟩
    exact offRegister listed

theorem Lined.strike (lined : flights.Lined) (access : AccessKey) (struck : FlightId) :
    (flights.strike access struck).Lined where
  lined flight member := lined.lined flight (by simpa using member)
  registered listed := by
    rw [access?_strike]
    exact lined.registered (register_of_strike listed).1

end Flights

end ClusterCache
