import ClusterCache.Binary64

/-!
# The shortest decimal of a number

Among the decimals that round to a given binary64 number, `Binary64.shortest` picks one with the
fewest digits, and of those the nearest. The search tries grids of one, two, … seventeen digits; on
each grid only the two neighbours of the number can be hits, because a grid point between the bounds
puts a neighbour of the number between them too.
-/

namespace ClusterCache.Binary64

structure Decimal where
  digits : Nat
  exponent : Int
deriving DecidableEq, Repr, Inhabited

namespace Decimal

/-- Moves the trailing zeros of the digits into the exponent. `fuel` bounds their number. -/
def stripZeros : Nat → Decimal → Decimal
  | 0, decimal => decimal
  | fuel + 1, decimal =>
      if decimal.digits ≠ 0 ∧ decimal.digits % 10 = 0 then
        stripZeros fuel ⟨decimal.digits / 10, decimal.exponent + 1⟩
      else decimal

end Decimal

/-- The reals that round to a positive number, in quarters of the last binary place: all between
`low` and `high`, the ends included iff `closed`. -/
structure Cell where
  value : Nat
  low : Nat
  high : Nat
  closed : Bool
deriving Repr

/-- The cell of a positive finite number. Below a power of two the lower neighbour is at half the
distance. -/
def cell (x : Binary64) : Cell :=
  let m := x.significand
  { value := 4 * m
    low := if m = Nat.pow 2 52 ∧ 0 < x.exponent then 4 * m - 1 else 4 * m - 2
    high := 4 * m + 2
    closed := m % 2 = 0 }

def Cell.holds (c : Cell) (numerator denominator : Nat) : Bool :=
  if c.closed then
    c.low * denominator ≤ numerator && numerator ≤ c.high * denominator
  else
    c.low * denominator < numerator && numerator < c.high * denominator

/-- The decimal exponent above the number: `10 ^ (result - 1) ≤ numerator / denominator <
10 ^ result`, given a lower bound of it and enough fuel. -/
def leadingExponent (numerator denominator : Nat) : Nat → Int → Int
  | 0, e => e
  | fuel + 1, e =>
      let below :=
        if 0 ≤ e then numerator < denominator * Nat.pow 10 e.toNat
        else numerator * Nat.pow 10 (-e).toNat < denominator
      if below then e else leadingExponent numerator denominator fuel (e + 1)

/-- A hit on the grid of multiples of `10 ^ place`: a neighbour of the number that lies in its
cell, the nearer one if both do. One quarter of the last place of the number is
`2 ^ exponent / 2 ^ 1076`. -/
def hitOn (c : Cell) (exponent : Nat) (place : Int) : Option Nat :=
  let up := if 0 ≤ place then 1 else Nat.pow 10 (-place).toNat
  let down := if 0 ≤ place then Nat.pow 10 place.toNat else 1
  let unit := Nat.pow 2 exponent * up
  let step := down * Nat.pow 2 1076
  let below := c.value * unit / step
  let above := below + 1
  let rest := c.value * unit % step
  match c.holds (below * step) unit, c.holds (above * step) unit with
  | true, true =>
      if 2 * rest < step then some below
      else if step < 2 * rest then some above
      else if below % 2 = 0 then some below else some above
  | true, false => some below
  | false, true => some above
  | false, false => none

def searchGrids (c : Cell) (exponent : Nat) (leading : Int) : Nat → Nat → Decimal
  | 0, digits => ⟨0, leading - digits⟩
  | fuel + 1, digits =>
      match hitOn c exponent (leading - digits) with
      | some hit => ⟨hit, leading - digits⟩
      | none => searchGrids c exponent leading fuel (digits + 1)

/-- The decimal with the fewest digits that rounds to the magnitude of `x`, without trailing
zeros. -/
def shortest (x : Binary64) : Decimal :=
  if x.isZero then ⟨0, 0⟩
  else
    let c := x.cell
    let numerator := x.significand * Nat.pow 2 x.exponent
    let leading := leadingExponent numerator (Nat.pow 2 1074) 700 (-330)
    (searchGrids c x.exponent leading 17 1).stripZeros 20

end ClusterCache.Binary64
