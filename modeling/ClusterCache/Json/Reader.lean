import ClusterCache.Binary64.Text
import ClusterCache.Json

/-!
# Reading JSON

`Json.read` accepts one JSON value with white space around it. Objects may repeat a name, in which
case the last field stays; values may be nested 127 deep. A number's digits are gathered in
sixty-four bits, later ones only shift the point, and a number with a point or an exponent is scaled
by powers of ten from there. Every reader returns the characters it did not use. A text that is no
JSON value either breaks off too early or has something wrong before its end.
-/

namespace ClusterCache.Json

inductive ReadProblem
  | unfinished
  | malformed
deriving DecidableEq, Repr

def problemAt : List Char → ReadProblem
  | [] => .unfinished
  | _ => .malformed

/-! ## Numbers -/

def significandLimit : Nat := Nat.pow 2 64 - 1

/-- Digits gathered so far: the number is `significand * 10 ^ exponent`, and no further digit is
taken once one was `full`. -/
structure Gathered where
  significand : Nat
  exponent : Int
  full : Bool
deriving Repr

def Gathered.takeWhole (state : Gathered) (c : Char) : Gathered :=
  let next := 10 * state.significand + (c.toNat - '0'.toNat)
  if state.full || significandLimit < next then
    { state with exponent := state.exponent + 1, full := true }
  else { state with significand := next }

def Gathered.takeFraction (state : Gathered) (c : Char) : Gathered :=
  let next := 10 * state.significand + (c.toNat - '0'.toNat)
  if state.full || significandLimit < next then { state with full := true }
  else { state with significand := next, exponent := state.exponent - 1 }

/-- Scales by powers of ten of at most 308 at a time; `none` if the result is too large. The fuel
suffices because dividing twice by `10 ^ 308` leaves zero. -/
def scale? : Nat → Binary64 → Int → Option Binary64
  | 0, x, _ => some x
  | fuel + 1, x, exponent =>
      if exponent.natAbs ≤ 308 then
        let power := Binary64.ofRatio false (Nat.pow 10 exponent.natAbs) 1
        if 0 ≤ exponent then
          let product := x.multiply power
          if product.isFinite then some product else none
        else some (x.divide power)
      else if x.isZero then some x
      else if 0 ≤ exponent then none
      else scale? fuel (x.divide (Binary64.ofRatio false (Nat.pow 10 308) 1)) (exponent + 308)

def double? (negative : Bool) (significand : Nat) (exponent : Int) : Option Number :=
  (scale? 4 (Binary64.ofRatio false significand 1) exponent).map fun x =>
    .double (if negative then x.negate else x)

/-- The number without point and exponent: an integer if it fits, else a double. Minus zero is a
double. -/
def wholeNumber? (negative : Bool) (state : Gathered) : Option Number :=
  if state.full then double? negative state.significand state.exponent
  else if !negative then some (.integer state.significand)
  else if state.significand = 0 || Nat.pow 2 63 < state.significand then
    double? true state.significand 0
  else some (.integer (-(state.significand : Int)))

def readExponent (characters : List Char) : Except ReadProblem (Int × List Char) :=
  let (negative, rest) :=
    match characters with
    | '-' :: rest => (true, rest)
    | '+' :: rest => (false, rest)
    | rest => (false, rest)
  let digits := rest.takeWhile Binary64.isDigit
  if digits.isEmpty then .error (problemAt rest)
  else
    let magnitude : Int := Binary64.digitsValue 0 digits
    .ok (if negative then -magnitude else magnitude, rest.dropWhile Binary64.isDigit)

/-- A number and the characters after it; a number too large is malformed. -/
def withinRange (value : Option Number) (rest : List Char) :
    Except ReadProblem (Number × List Char) :=
  match value with
  | some value => .ok (value, rest)
  | none => .error .malformed

def readScaled (negative : Bool) (state : Gathered) (characters : List Char) :
    Except ReadProblem (Number × List Char) :=
  match characters with
  | c :: rest =>
      if c = 'e' || c = 'E' then do
        let (exponent, rest) ← readExponent rest
        if state.significand = 0 then
          return (.double (Binary64.ofParts negative 0), rest)
        withinRange (double? negative state.significand (state.exponent + exponent)) rest
      else withinRange (double? negative state.significand state.exponent) characters
  | [] => withinRange (double? negative state.significand state.exponent) []

def readMagnitude (negative : Bool) (characters : List Char) :
    Except ReadProblem (Number × List Char) :=
  let whole := characters.takeWhile Binary64.isDigit
  let rest := characters.dropWhile Binary64.isDigit
  if whole.isEmpty then .error (problemAt rest)
  else if whole.head? = some '0' && 1 < whole.length then .error .malformed
  else
    let state := whole.foldl Gathered.takeWhole ⟨0, 0, false⟩
    match rest with
    | '.' :: afterPoint =>
        let fraction := afterPoint.takeWhile Binary64.isDigit
        if fraction.isEmpty then .error (problemAt afterPoint)
        else
          readScaled negative (fraction.foldl Gathered.takeFraction { state with full := false })
            (afterPoint.dropWhile Binary64.isDigit)
    | c :: _ =>
        if c = 'e' || c = 'E' then readScaled negative state rest
        else withinRange (wholeNumber? negative state) rest
    | [] => withinRange (wholeNumber? negative state) rest

/-! ## Strings -/

def hexDigit? (c : Char) : Option Nat :=
  if '0' ≤ c && c ≤ '9' then some (c.toNat - '0'.toNat)
  else if 'a' ≤ c && c ≤ 'f' then some (c.toNat - 'a'.toNat + 10)
  else if 'A' ≤ c && c ≤ 'F' then some (c.toNat - 'A'.toNat + 10)
  else none

/-- Four hexadecimal digits. The text breaks off if less than four bytes are left. -/
def readUnit (characters : List Char) : Except ReadProblem (Nat × List Char) :=
  match (characters.take 4).mapM hexDigit? with
  | some [a, b, c, d] => .ok (((a * 16 + b) * 16 + c) * 16 + d, characters.drop 4)
  | _ =>
      if (String.ofList (characters.take 4)).utf8ByteSize < 4 then .error .unfinished
      else .error .malformed

/-- A character written by number: one unit, or two that form a pair. -/
def readNumbered (characters : List Char) : Except ReadProblem (Char × List Char) := do
  let (first, rest) ← readUnit characters
  if 0xD800 ≤ first && first ≤ 0xDBFF then
    match rest with
    | '\\' :: 'u' :: rest => do
        let (second, rest) ← readUnit rest
        if 0xDC00 ≤ second && second ≤ 0xDFFF then
          return (Char.ofNat (0x10000 + (first - 0xD800) * 0x400 + (second - 0xDC00)), rest)
        else .error .malformed
    | ['\\'] => .error .unfinished
    | rest => .error (problemAt rest)
  else if 0xDC00 ≤ first && first ≤ 0xDFFF then .error .malformed
  else return (Char.ofNat first, rest)

def simpleEscape? : Char → Option Char
  | '"' => some '"'
  | '\\' => some '\\'
  | '/' => some '/'
  | 'b' => some '\x08'
  | 'f' => some '\x0c'
  | 'n' => some '\n'
  | 'r' => some '\r'
  | 't' => some '\t'
  | _ => none

/-- The characters of a string up to its closing quote. The fuel is the number of characters and
one. -/
def readCharacters : Nat → List Char → List Char → Except ReadProblem (String × List Char)
  | 0, _, _ => .error .unfinished
  | _, [], _ => .error .unfinished
  | fuel + 1, c :: rest, done =>
      if c = '"' then .ok (String.ofList done.reverse, rest)
      else if c = '\\' then
        match rest with
        | 'u' :: rest => do
            let (c, rest) ← readNumbered rest
            readCharacters fuel rest (c :: done)
        | letter :: rest =>
            match simpleEscape? letter with
            | some c => readCharacters fuel rest (c :: done)
            | none => .error .malformed
        | [] => .error .unfinished
      else if c.toNat < 0x20 then .error .malformed
      else readCharacters fuel rest (c :: done)

/-! ## Values -/

def isSpace (c : Char) : Bool := c = ' ' || c = '\n' || c = '\t' || c = '\r'

def skipSpace (characters : List Char) : List Char := characters.dropWhile isSpace

def readWord (value : Json) : List Char → List Char → Except ReadProblem (Json × List Char)
  | [], rest => .ok (value, rest)
  | _ :: _, [] => .error .unfinished
  | expected :: word, c :: rest =>
      if c = expected then readWord value word rest else .error .malformed

mutual

def readValue (depth : Nat) : Nat → List Char → Except ReadProblem (Json × List Char)
  | 0, _ => .error .malformed
  | fuel + 1, characters =>
      match characters with
      | [] => .error .unfinished
      | '"' :: rest =>
          (readCharacters (rest.length + 1) rest []).map fun (text, rest) => (.string text, rest)
      | '-' :: rest => (readMagnitude true rest).map fun (value, rest) => (.number value, rest)
      | '[' :: rest =>
          if depth = 0 then .error .malformed
          else
            match skipSpace rest with
            | ']' :: rest => .ok (.array [], rest)
            | rest => readItems (depth - 1) fuel rest []
      | '\x7b' :: rest =>
          if depth = 0 then .error .malformed
          else
            match skipSpace rest with
            | '\x7d' :: rest => .ok (.object [], rest)
            | rest => readFields (depth - 1) fuel rest []
      | 't' :: rest => readWord (.bool true) ['r', 'u', 'e'] rest
      | 'f' :: rest => readWord (.bool false) ['a', 'l', 's', 'e'] rest
      | 'n' :: rest => readWord .null ['u', 'l', 'l'] rest
      | _ => (readMagnitude false characters).map fun (value, rest) => (.number value, rest)

def readItems (depth : Nat) : Nat → List Char → List Json → Except ReadProblem (Json × List Char)
  | 0, _, _ => .error .malformed
  | fuel + 1, characters, done => do
      let (item, rest) ← readValue depth fuel characters
      match skipSpace rest with
      | ']' :: rest => return (.array (item :: done).reverse, rest)
      | ',' :: rest => readItems depth fuel (skipSpace rest) (item :: done)
      | rest => .error (problemAt rest)

def readFields (depth : Nat) : Nat → List Char → List (String × Json) →
    Except ReadProblem (Json × List Char)
  | 0, _, _ => .error .malformed
  | fuel + 1, characters, done =>
      match characters with
      | '"' :: rest => do
          let (name, rest) ← readCharacters (rest.length + 1) rest []
          match skipSpace rest with
          | ':' :: rest => do
              let (value, rest) ← readValue depth fuel (skipSpace rest)
              match skipSpace rest with
              | '\x7d' :: rest => return (.ofFields ((name, value) :: done).reverse, rest)
              | ',' :: rest => readFields depth fuel (skipSpace rest) ((name, value) :: done)
              | rest => .error (problemAt rest)
          | rest => .error (problemAt rest)
      | rest => .error (problemAt rest)

end

def depthLimit : Nat := 127

def readFront (depth : Nat) (characters : List Char) : Except ReadProblem (Json × List Char) :=
  let characters := skipSpace characters
  readValue depth (2 * characters.length + 2) characters

def read (text : String) : Except ReadProblem Json := do
  let (value, rest) ← readFront depthLimit text.toList
  if (skipSpace rest).isEmpty then return value else .error .malformed

def read? (text : String) : Option Json := (read text).toOption

end ClusterCache.Json
