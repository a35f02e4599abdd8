import ClusterCache.Binary64.Shortest

/-!
# Numbers as text

Two ways to write the shortest decimal of a number: positionally whatever its size, and the mixed
form of data formats, which turns to an exponent for very large and very small magnitudes. Reading
accepts decimals with an optional point and exponent, and the names of infinity and of not-a-number.
-/

namespace ClusterCache.Binary64

/-! ## Writing -/

/-- The digits of the magnitude, a point put `places` digits before the end, zeros added where
there are no digits. -/
def pointed (digits : List Char) (places : Nat) : List Char :=
  let padded := List.replicate (places + 1 - digits.length) '0' ++ digits
  padded.take (padded.length - places) ++ '.' :: padded.drop (padded.length - places)

def signText (x : Binary64) : String := if x.isNegative then "-" else ""

def plainText (x : Binary64) : String :=
  if x.isNaN then "NaN"
  else if !x.isFinite then signText x ++ "inf"
  else
    let decimal := x.shortest
    let digits := Nat.toDigits 10 decimal.digits
    let magnitude :=
      if 0 ≤ decimal.exponent then digits ++ List.replicate decimal.exponent.toNat '0'
      else pointed digits (-decimal.exponent).toNat
    signText x ++ String.ofList magnitude

/-- Which shortest decimals the mixed form writes positionally: those whose first digit stands
between the places `least` and `greatest`, both included. -/
structure MixedFormat where
  least : Int
  greatest : Int
deriving Repr

/-- Data formats write `0.00001` and `1000000000000000.0` positionally and turn to an exponent
beyond. -/
def dataFormat : MixedFormat := ⟨-5, 15⟩

def exponentText (exponent : Int) : List Char :=
  (if exponent < 0 then '-' else '+') :: Nat.toDigits 10 exponent.natAbs

/-- A finite number in the mixed form. Whole numbers keep one zero after the point. -/
def mixedText (format : MixedFormat) (x : Binary64) : String :=
  if x.isZero then signText x ++ "0.0"
  else
    let decimal := x.shortest
    let digits := Nat.toDigits 10 decimal.digits
    let first : Int := digits.length - 1 + decimal.exponent
    let magnitude :=
      if format.least ≤ first ∧ first ≤ format.greatest then
        if 0 ≤ decimal.exponent then
          digits ++ List.replicate decimal.exponent.toNat '0' ++ ['.', '0']
        else pointed digits (-decimal.exponent).toNat
      else
        match digits with
        | [] => []
        | lead :: [] => lead :: 'e' :: exponentText first
        | lead :: rest => lead :: '.' :: rest ++ 'e' :: exponentText first
    signText x ++ String.ofList magnitude

/-! ## Reading -/

inductive ReadingError
  | empty
  | invalid
deriving DecidableEq, Repr

def ReadingError.message : ReadingError → String
  | .empty => "cannot parse float from empty string"
  | .invalid => "invalid float literal"

def isDigit (c : Char) : Bool := '0' ≤ c && c ≤ '9'

def digitsValue (start : Nat) (digits : List Char) : Nat :=
  digits.foldl (fun value c => 10 * value + (c.toNat - '0'.toNat)) start

def readExponent? (characters : List Char) : Option Int :=
  let (negative, digits) :=
    match characters with
    | '-' :: rest => (true, rest)
    | '+' :: rest => (false, rest)
    | rest => (false, rest)
  if digits.isEmpty || !digits.all isDigit then none
  else if negative then some (-(digitsValue 0 digits : Int)) else some (digitsValue 0 digits)

def readMagnitude? (negative : Bool) (characters : List Char) : Option Binary64 :=
  let whole := characters.takeWhile isDigit
  let afterWhole := characters.dropWhile isDigit
  let (fraction, afterFraction) :=
    match afterWhole with
    | '.' :: rest => (rest.takeWhile isDigit, rest.dropWhile isDigit)
    | rest => ([], rest)
  if whole.isEmpty && fraction.isEmpty then none
  else
    let exponent? : Option Int :=
      match afterFraction with
      | [] => some 0
      | c :: rest => if c = 'e' || c = 'E' then readExponent? rest else none
    exponent?.map fun exponent =>
      ofDecimal negative (digitsValue 0 (whole ++ fraction)) (exponent - fraction.length)

/-- Reads a number: an optional sign, then a decimal or, in any case, `inf`, `infinity` or
`nan`. -/
def read (text : String) : Except ReadingError Binary64 :=
  if text.isEmpty then .error .empty
  else
    let (negative, magnitude) :=
      match text.toList with
      | '-' :: rest => (true, rest)
      | '+' :: rest => (false, rest)
      | rest => (false, rest)
    let name := String.ofList (magnitude.map Char.toLower)
    if name = "inf" || name = "infinity" then .ok (ofParts negative infinityBits)
    else if name = "nan" then .ok (ofParts negative nan.unsignedBits)
    else
      match readMagnitude? negative magnitude with
      | some x => .ok x
      | none => .error .invalid

end ClusterCache.Binary64
