import ClusterCache.Access
import ClusterCache.Gate
import ClusterCache.Table

/-!
# Reviews in flight

Calls that need the same decision do not all ask for it: they meet at a lock, and only the call that
holds it asks. The register knows the lock at which calls for a decision are to meet; a call that
has its answer takes the lock off the register again, while those who already wait at it stay.
-/

namespace ClusterCache

abbrev FlightId := Nat

/-- A lock: who holds it and who waits for it, in the order of arrival. -/
structure Flight where
  access : AccessKey
  holder : Option CallId
  waiting : List CallId
deriving DecidableEq, Repr

namespace Flight

/-- A call asks for the lock; it holds it at once if nobody does. -/
def join (flight : Flight) (call : CallId) : Flight :=
  match flight.holder with
  | none => { flight with holder := some call }
  | some _ => { flight with waiting := flight.waiting ++ [call] }

/-- A call releases the lock, or gives up waiting for it. A released lock goes to the first who
waits. -/
def leave (flight : Flight) (call : CallId) : Flight :=
  if flight.holder = some call then
    match flight.waiting with
    | next :: rest => { flight with holder := some next, waiting := rest }
    | [] => { flight with holder := none }
  else { flight with waiting := flight.waiting.filter (· ≠ call) }

end Flight

/-- The locks, and the register of where calls for a decision are to meet. -/
structure Flights where
  locks : List Flight
  register : Table AccessKey FlightId
deriving DecidableEq, Repr

namespace Flights

def empty : Flights := ⟨[], Table.empty⟩

instance : Inhabited Flights := ⟨empty⟩

/-- A call goes to the lock on the register, which is made if there is none. -/
def join (flights : Flights) (access : AccessKey) (call : CallId) : Flights × FlightId :=
  match flights.register.get? access with
  | some id => ({ flights with locks := flights.locks.modify id (·.join call) }, id)
  | none =>
      let id := flights.locks.length
      (⟨flights.locks ++ [⟨access, some call, []⟩], flights.register.insert access id⟩, id)

def isHolder (flights : Flights) (id : FlightId) (call : CallId) : Bool :=
  flights.locks[id]?.any fun flight => flight.holder = some call

def leave (flights : Flights) (id : FlightId) (call : CallId) : Flights :=
  { flights with locks := flights.locks.modify id (·.leave call) }

/-- Takes a lock off the register, if it is the one that is on it. -/
def strike (flights : Flights) (access : AccessKey) (id : FlightId) : Flights :=
  if flights.register.get? access = some id then
    { flights with register := flights.register.erase access }
  else flights

end Flights

end ClusterCache
