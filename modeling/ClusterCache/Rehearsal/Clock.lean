/-!
# Clocks

A rehearsal runs under a virtual clock. Time stands still as long as anything can run. So that
nobody keeps the others waiting, a turn has a credit: every wait that comes to its end in the turn
costs one unit, and without credit no wait comes to its end before the next turn.
-/

namespace ClusterCache

/-- The time, and the credit that is left of the present turn. -/
structure Clock where
  now : Nat
  credit : Nat
deriving DecidableEq, Repr

namespace Clock

def fullCredit : Nat := 128

def start : Clock := ⟨0, fullCredit⟩

def spend (clock : Clock) (units : Nat) : Clock := { clock with credit := clock.credit - units }

def refresh (clock : Clock) : Clock := { clock with credit := fullCredit }

def jump (clock : Clock) (moment : Nat) : Clock := { clock with now := moment }

end Clock

class Timed (ω : Type) where
  clock : ω → Clock
  setClock : Clock → ω → ω

namespace Timed

variable {ω : Type} [Timed ω]

def now (world : ω) : Nat := (clock world).now

def hasCredit (world : ω) : Bool := 0 < (clock world).credit

def spend (units : Nat) (world : ω) : ω := setClock ((clock world).spend units) world

def refresh (world : ω) : ω := setClock (clock world).refresh world

def jump (moment : Nat) (world : ω) : ω := setClock ((clock world).jump moment) world

end Timed

end ClusterCache
