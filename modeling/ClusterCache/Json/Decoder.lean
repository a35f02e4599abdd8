import ClusterCache.Json.Reader
import ClusterCache.Json.Text

/-!
# Decoding JSON

A decoder reads a value of a known form straight from the characters of a text, so that the first
thing that is wrong decides how the reading fails. What a form does not mention is skipped with less
scrutiny than what is kept: it may be nested to any depth, its numbers may be of any size, and its
strings may name half a pair of units. Decoders of objects are made from forms, which say what
becomes of each field.
-/

namespace ClusterCache.Json

abbrev Reading (α : Type) := StateT (List Char) (Except ReadProblem) α

/-- Reads a value of a known form, nested at most as deep as the number says. -/
abbrev Decoder (α : Type) := Nat → Reading α

namespace Reading

/-- The next character that is not white space. It is not used up. -/
def next : Reading Char := fun characters =>
  match skipSpace characters with
  | [] => .error .unfinished
  | c :: rest => .ok (c, c :: rest)

def advance : Reading Unit := fun characters => .ok ((), characters.tail)

def mark (expected : Char) : Reading Unit := do
  if (← next) = expected then advance else throw .malformed

def stringRest : Reading String := fun characters =>
  readCharacters (characters.length + 1) characters []

/-- A value of another form than is needed. Unless it is an array or an object, it is read to its
end before it is refused. -/
def mismatch {α : Type} : Reading α := do
  let c ← next
  if c = '[' || c = '\x7b' then throw .malformed
  let _ ← (readValue 0 1 : Reading Json)
  throw .malformed

/-! ## Skipping -/

/-- Skips a string after its opening quote. The fuel is the number of characters and one. -/
def skipString : Nat → List Char → Except ReadProblem (Unit × List Char)
  | 0, _ => .error .unfinished
  | _, [] => .error .unfinished
  | fuel + 1, c :: rest =>
      if c = '"' then .ok ((), rest)
      else if c = '\\' then
        match rest with
        | 'u' :: rest => (readUnit rest).bind fun (_, rest) => skipString fuel rest
        | letter :: rest =>
            if (simpleEscape? letter).isSome then skipString fuel rest else .error .malformed
        | [] => .error .unfinished
      else if c.toNat < 0x20 then .error .malformed
      else skipString fuel rest

def skipDigits : Reading Unit := fun characters =>
  if characters.head?.any Binary64.isDigit then .ok ((), characters.dropWhile Binary64.isDigit)
  else .error .malformed

def skipExponent : Reading Unit := fun characters =>
  match characters with
  | c :: rest =>
      if c = 'e' || c = 'E' then
        skipDigits (if rest.head?.any fun c => c = '+' || c = '-' then rest.tail else rest)
      else .ok ((), characters)
  | [] => .ok ((), [])

def skipNumber : Reading Unit := fun characters => do
  let digits := characters.takeWhile Binary64.isDigit
  if digits.head? = some '0' && 1 < digits.length then throw .malformed
  let (_, rest) ← skipDigits characters
  match rest with
  | '.' :: rest => (skipDigits *> skipExponent) rest
  | rest => skipExponent rest

mutual

def skipValue : Nat → Reading Unit
  | 0 => throw .malformed
  | fuel + 1 => do
      match ← next with
      | '"' =>
          advance
          fun characters => skipString (characters.length + 1) characters
      | '-' =>
          advance
          skipNumber
      | '[' =>
          advance
          if (← next) = ']' then advance else skipItems fuel
      | '\x7b' =>
          advance
          if (← next) = '\x7d' then advance else skipFields fuel
      | c =>
          if Binary64.isDigit c then skipNumber
          else
            let _ ← (readValue 0 1 : Reading Json)

def skipItems : Nat → Reading Unit
  | 0 => throw .malformed
  | fuel + 1 => do
      skipValue fuel
      match ← next with
      | ']' => advance
      | ',' =>
          advance
          skipItems fuel
      | _ => throw .malformed

def skipFields : Nat → Reading Unit
  | 0 => throw .malformed
  | fuel + 1 => do
      mark '"'
      fun characters => skipString (characters.length + 1) characters
      mark ':'
      skipValue fuel
      match ← next with
      | '\x7d' => advance
      | ',' =>
          advance
          skipFields fuel
      | _ => throw .malformed

end

/-! ## Arrays and objects -/

def itemsRest {σ : Type} (take : σ → Reading σ) : Nat → σ → Reading σ
  | 0, _ => throw .malformed
  | fuel + 1, state => do
      let state ← take state
      match ← next with
      | ']' =>
          advance
          return state
      | ',' =>
          advance
          itemsRest take fuel state
      | _ => throw .malformed

/-- Takes in the fields of an object from the first one on, to the closing brace. A name alone may
be refused. -/
def fieldsRest {σ : Type} (take : String → σ → Except ReadProblem (Reading σ)) :
    Nat → σ → Reading σ
  | 0, _ => throw .malformed
  | fuel + 1, state => do
      mark '"'
      let name ← stringRest
      let read ← take name state
      mark ':'
      let state ← read
      match ← next with
      | '\x7d' =>
          advance
          return state
      | ',' =>
          advance
          fieldsRest take fuel state
      | _ => throw .malformed

end Reading

namespace Decoder

open Reading

def decode {α : Type} (decoder : Decoder α) (text : List Char) : Except ReadProblem α := do
  let (value, rest) ← decoder depthLimit text
  if (skipSpace rest).isEmpty then .ok value else .error .malformed

def ofJson? {α : Type} (decoder : Decoder α) (json : Json) : Option α :=
  (decoder.decode json.compact.toList).toOption

/-! ## Values of one kind -/

def any : Decoder Json := readFront

def spelling : Decoder (List Char) := fun depth characters => do
  let (_, rest) ← readFront depth characters
  return (characters.take (characters.length - rest.length), rest)

def scalar {α : Type} (pick : Json → Option α) : Decoder α := fun _ => do
  let c ← next
  if c = '[' || c = '\x7b' then throw .malformed
  match pick (← (readValue 0 1 : Reading Json)) with
  | some value => return value
  | none => throw .malformed

def text : Decoder String := scalar string?

def flag : Decoder Bool := scalar bool?

def integer (low high : Int) : Decoder Int :=
  scalar fun json => json.integer?.filter fun value => low ≤ value && value ≤ high

def long : Decoder Int := integer (-(Nat.pow 2 63 : Int)) ((Nat.pow 2 63 : Int) - 1)

def word {α : Type} (pick : String → Option α) : Decoder α := fun depth => do
  match pick (← text depth) with
  | some value => return value
  | none => throw .malformed

def optional {α : Type} (decoder : Decoder α) : Decoder (Option α) := fun depth => do
  if (← next) = 'n' then
    let _ ← (readValue 0 1 : Reading Json)
    return none
  else return some (← decoder depth)

/-- One of several names: a text, or an object whose only field has the name and is null. -/
def choice {α : Type} (pick : String → Option α) : Decoder α := fun depth => do
  match ← next with
  | '"' => word pick depth
  | '\x7b' =>
      if depth = 0 then throw .malformed
      advance
      let chosen ← word pick depth
      mark ':'
      scalar (fun json => if json.isNull then some () else none) depth
      mark '\x7d'
      return chosen
  | _ => throw .malformed

/-! ## Arrays and objects -/

def foldItems {σ : Type} (start : σ) (take : Nat → σ → Reading σ) : Decoder σ := fun depth => do
  if (← next) ≠ '[' then mismatch
  if depth = 0 then throw .malformed
  advance
  if (← next) = ']' then
    advance
    return start
  else itemsRest (take (depth - 1)) ((← get).length + 1) start

def foldFields {σ : Type} (start : σ)
    (take : Nat → String → σ → Except ReadProblem (Reading σ)) : Decoder σ := fun depth => do
  if (← next) ≠ '\x7b' then mismatch
  if depth = 0 then throw .malformed
  advance
  if (← next) = '\x7d' then
    advance
    return start
  else fieldsRest (take (depth - 1)) ((← get).length + 1) start

def list {α : Type} (item : Decoder α) : Decoder (List α) := fun depth => do
  let done ← foldItems [] (fun depth done => do return (← item depth) :: done) depth
  return done.reverse

/-- An object with values of one form; of two with one name the later stays. -/
def dictionary {α : Type} (value : Decoder α) : Decoder (Dictionary α) := fun depth => do
  let take (depth : Nat) (name : String) (done : List (String × α)) :
      Except ReadProblem (Reading (List (String × α))) :=
    .ok do return (name, ← value depth) :: done
  return Dictionary.ofList (← foldFields [] take depth).reverse

end Decoder

/-! ## Forms -/

structure FormField (σ : Type) where
  name : String
  take : σ → Decoder σ

namespace FormField

def kept {σ α : Type} (name : String) (decoder : Decoder α) (keep : σ → α → σ) : FormField σ :=
  ⟨name, fun state depth => do return keep state (← decoder depth)⟩

/-- A field whose value must be of a form but is not kept. -/
def checked {σ α : Type} (name : String) (decoder : Decoder α) : FormField σ :=
  kept name decoder fun state _ => state

/-- A text that may be null and is not kept. -/
def note {σ : Type} (name : String) : FormField σ := checked name (.optional .text)

def fixed {σ : Type} (name text : String) : FormField σ :=
  checked name (.word fun found => if found = text then some () else none)

end FormField

/-- Whether a field of a form may be given more than once; the last one counts then. -/
inductive Repetition
  | allowed
  | refused
deriving DecidableEq, Repr

/-- What becomes of a field that a form does not mention: it is skipped. -/
def skipField {σ : Type} (_ : String) (state : σ) : Decoder σ := fun _ => do
  Reading.skipValue (2 * (← get).length + 2)
  return state

structure Form (σ : Type) where
  repetition : Repetition
  fields : List (FormField σ)
  other : String → σ → Decoder σ := skipField

namespace Form

/-- Takes in one field. The names that have been seen go along with the state. -/
def take {σ : Type} (form : Form σ) (depth : Nat) (name : String) (state : σ × List String) :
    Except ReadProblem (Reading (σ × List String)) :=
  match form.fields.find? fun field => field.name = name with
  | some field =>
      if form.repetition = .refused && state.2.contains name then .error .malformed
      else .ok do return (← field.take state.1 depth, name :: state.2)
  | none => .ok do return (← form.other name state.1 depth, state.2)

def concluded {σ α : Type} (finish : σ → Option α) (state : σ) : Reading α :=
  match finish state with
  | some value => return value
  | none => throw .malformed

/-- An object of the form. `finish` refuses one that lacks something. -/
def record {σ α : Type} (form : Form σ) (start : σ) (finish : σ → Option α) : Decoder α :=
  fun depth => do
    concluded finish (← Decoder.foldFields (start, []) form.take depth).1

/-- An array of the fields' values in their order; the last ones may be left out. -/
def row {σ α : Type} (form : Form σ) (start : σ) (finish : σ → Option α) : Decoder α :=
  fun depth => do
    let take (depth : Nat) (state : σ × List (FormField σ)) : Reading (σ × List (FormField σ)) :=
      match state.2 with
      | field :: rest => do return (← field.take state.1 depth, rest)
      | [] => throw .malformed
    concluded finish (← Decoder.foldItems (start, form.fields) take depth).1

def recordOrRow {σ α : Type} (form : Form σ) (start : σ) (finish : σ → Option α) : Decoder α :=
  fun depth => do
    if (← Reading.next) = '[' then form.row start finish depth
    else form.record start finish depth

end Form

end ClusterCache.Json
