import ClusterCache.Binary64
import ClusterCache.Dictionary

/-!
# JSON values

Values of the data format JSON. A number is an integer if it was written without point and exponent
and fits sixty-four bits, else a binary64 number; the two kinds never equal each other. The fields
of an object are kept by ascending name.
-/

namespace ClusterCache

inductive Number
  | integer (value : Int)
  | double (value : Binary64)
deriving DecidableEq, Repr

inductive Json
  | null
  | bool (value : Bool)
  | number (value : Number)
  | string (value : String)
  | array (items : List Json)
  | object (fields : List (String × Json))
deriving Repr, Inhabited

namespace Number

/-- The number as a binary64 number, rounded if it is an integer that is not one. -/
def toBinary64 : Number → Binary64
  | integer value => Binary64.ofInt value
  | double value => value

/-- Equality of numbers of one kind; a positive zero equals a negative one. -/
def equal : Number → Number → Bool
  | integer left, integer right => left = right
  | double left, double right => left.numericEq right
  | _, _ => false

end Number

namespace Json

/-- The object with the given fields; of two with one name the later stays. -/
def ofFields (fields : List (String × Json)) : Json := .object (Dictionary.ofList fields).entries

def ofDictionary (fields : Dictionary Json) : Json := .object fields.entries

mutual

/-- Equality of values, up to the sign of zeros. -/
def equal : Json → Json → Bool
  | .null, .null => true
  | .bool left, .bool right => left = right
  | .number left, .number right => left.equal right
  | .string left, .string right => left = right
  | .array left, .array right => equalItems left right
  | .object left, .object right => equalFields left right
  | _, _ => false

def equalItems : List Json → List Json → Bool
  | [], [] => true
  | left :: leftRest, right :: rightRest => equal left right && equalItems leftRest rightRest
  | _, _ => false

def equalFields : List (String × Json) → List (String × Json) → Bool
  | [], [] => true
  | (leftName, left) :: leftRest, (rightName, right) :: rightRest =>
      leftName = rightName && equal left right && equalFields leftRest rightRest
  | _, _ => false

end

/-! ## Parts of values -/

def string? : Json → Option String
  | .string value => some value
  | _ => none

def bool? : Json → Option Bool
  | .bool value => some value
  | _ => none

def array? : Json → Option (List Json)
  | .array items => some items
  | _ => none

def fields? : Json → Option (List (String × Json))
  | .object fields => some fields
  | _ => none

def number? : Json → Option Number
  | .number value => some value
  | _ => none

def integer? : Json → Option Int
  | .number (.integer value) => some value
  | _ => none

def natural? (json : Json) : Option Nat :=
  (json.integer?.filter (0 ≤ ·)).map Int.toNat

def isNull : Json → Bool
  | .null => true
  | _ => false

def field? (json : Json) (name : String) : Option Json :=
  json.fields?.bind fun fields => (fields.find? fun entry => entry.1 = name).map Prod.snd

end Json

end ClusterCache
