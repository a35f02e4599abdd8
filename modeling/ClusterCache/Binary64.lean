/-!
# Binary64 numbers

A binary64 number is its 64 bits: a sign, eleven bits of exponent and fifty-two of fraction. All
arithmetic here is exact arithmetic on natural numbers followed by one rounding to the nearest
number of the format, where a tie goes to the even neighbour.
-/

namespace ClusterCache

/-- A number of the IEEE 754 format binary64, by its bits. -/
structure Binary64 where
  bits : UInt64
deriving DecidableEq, Repr, Inhabited

namespace Binary64

/-! ## Parts -/

def isNegative (x : Binary64) : Bool := Nat.pow 2 63 ≤ x.bits.toNat

/-- The bits below the sign. They grow with the magnitude. -/
def unsignedBits (x : Binary64) : Nat := x.bits.toNat % Nat.pow 2 63

def infinityBits : Nat := 2047 * Nat.pow 2 52

def isNaN (x : Binary64) : Bool := infinityBits < x.unsignedBits

def isFinite (x : Binary64) : Bool := x.unsignedBits < infinityBits

def isZero (x : Binary64) : Bool := x.unsignedBits = 0

def significand (x : Binary64) : Nat :=
  if x.unsignedBits < Nat.pow 2 52 then x.unsignedBits
  else x.unsignedBits % Nat.pow 2 52 + Nat.pow 2 52

/-- The magnitude of a finite number is `significand * 2 ^ exponent / 2 ^ 1074`. -/
def exponent (x : Binary64) : Nat :=
  if x.unsignedBits < Nat.pow 2 52 then 0 else x.unsignedBits / Nat.pow 2 52 - 1

def ofParts (negative : Bool) (unsignedBits : Nat) : Binary64 :=
  ⟨UInt64.ofNat (if negative then Nat.pow 2 63 + unsignedBits else unsignedBits)⟩

def nan : Binary64 := ofParts false (infinityBits + Nat.pow 2 51)

def infinity : Binary64 := ofParts false infinityBits

def negate (x : Binary64) : Binary64 := ofParts (!x.isNegative) x.unsignedBits

/-! ## Rounding -/

/-- The quotient rounded to the nearest natural number, a tie to the even one. -/
def roundQuotient (numerator denominator : Nat) : Nat :=
  let quotient := numerator / denominator
  let rest := numerator % denominator
  if 2 * rest < denominator then quotient
  else if denominator < 2 * rest then quotient + 1
  else if quotient % 2 = 0 then quotient
  else quotient + 1

/-- The scale at which `numerator / denominator` has fifty-three bits: the largest `scale` with
`2 ^ (scale + 52) ≤ 2 ^ 1074 * numerator / denominator`, or zero. -/
def scaleOf (numerator denominator : Nat) : Nat :=
  let guess := Nat.log2 numerator + 1074 - Nat.log2 denominator - 52
  if Nat.pow 2 1074 * numerator < Nat.pow 2 (guess + 52) * denominator then guess - 1 else guess

/-- The bits of the number nearest to `numerator / denominator`. Magnitudes beyond the format become
infinite. -/
def nearestBits (numerator denominator : Nat) : Nat :=
  let scale := scaleOf numerator denominator
  let digits := roundQuotient (Nat.pow 2 1074 * numerator) (Nat.pow 2 scale * denominator)
  min (scale * Nat.pow 2 52 + digits) infinityBits

def ofRatio (negative : Bool) (numerator denominator : Nat) : Binary64 :=
  ofParts negative (if numerator = 0 then 0 else nearestBits numerator denominator)

def ofInt (n : Int) : Binary64 := ofRatio (n < 0) n.natAbs 1

def multiply (x y : Binary64) : Binary64 :=
  ofRatio (x.isNegative != y.isNegative)
    (x.significand * Nat.pow 2 x.exponent * (y.significand * Nat.pow 2 y.exponent))
    (Nat.pow 2 2148)

def divide (x y : Binary64) : Binary64 :=
  ofRatio (x.isNegative != y.isNegative)
    (x.significand * Nat.pow 2 x.exponent) (y.significand * Nat.pow 2 y.exponent)

/-- The number nearest to `digits * 10 ^ exponent`, with the given sign. Exponents that leave the
format whatever the digits are answered without computing the power. -/
def ofDecimal (negative : Bool) (digits : Nat) (exponent : Int) : Binary64 :=
  let magnitude : Int := (Nat.log2 digits : Int) + 3 * exponent
  if digits = 0 || (exponent < 0 && (Nat.log2 digits : Int) + 3 * exponent < -1200) then
    ofParts negative 0
  else if 0 ≤ exponent && 1100 < magnitude then ofParts negative infinityBits
  else if 0 ≤ exponent then ofRatio negative (digits * Nat.pow 10 exponent.toNat) 1
  else ofRatio negative digits (Nat.pow 10 (-exponent).toNat)

/-! ## Comparison and truncation -/

/-- Equality of numbers: both zeros are equal, and no number equals a NaN. -/
def numericEq (x y : Binary64) : Bool :=
  !x.isNaN && !y.isNaN && (x == y || (x.isZero && y.isZero))

def truncate (x : Binary64) : Nat := x.significand * Nat.pow 2 x.exponent / Nat.pow 2 1074

def isWithin (x : Binary64) (limit : Nat) : Bool :=
  x.isFinite && (!x.isNegative || x.isZero)
    && x.significand * Nat.pow 2 x.exponent ≤ limit * Nat.pow 2 1074

end Binary64

end ClusterCache
