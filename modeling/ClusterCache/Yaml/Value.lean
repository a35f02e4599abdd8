import ClusterCache.Binary64.Text
import ClusterCache.Yaml.Tree

/-!
# YAML values

The value that a tree stands for. What a plain scalar is follows from its text: null, a boolean, a
number, or else a string. Standard tags can say so as well; a tag of the text's own stays with its
value. An alias stands for the node with its anchor, wherever that is; values must not become too
deep or too large in this way. The keys of a mapping are all different.
-/

namespace ClusterCache.Yaml

inductive Value
  | null
  | bool (value : Bool)
  | integer (value : Int)
  | double (value : Binary64)
  | string (value : String)
  | sequence (items : List Value)
  | mapping (entries : List (Value × Value))
  | tagged (tag : String) (content : Value)
deriving Repr, Inhabited

namespace Value

/-! ## Equality -/

mutual

/-- Equality of values. The order of a mapping's entries does not count. -/
def same : Value → Value → Bool
  | .null, .null => true
  | .bool left, .bool right => left = right
  | .integer left, .integer right => left = right
  | .double left, .double right => left.numericEq right || (left.isNaN && right.isNaN)
  | .string left, .string right => left = right
  | .sequence left, .sequence right => sameItems left right
  | .mapping left, .mapping right => left.length = right.length && sameEntries left right
  | .tagged leftTag left, .tagged rightTag right => leftTag = rightTag && same left right
  | _, _ => false

def sameItems : List Value → List Value → Bool
  | [], [] => true
  | left :: leftRest, right :: rightRest => same left right && sameItems leftRest rightRest
  | _, _ => false

def sameEntries : List (Value × Value) → List (Value × Value) → Bool
  | [], _ => true
  | (key, value) :: rest, right =>
      (right.any fun entry => same key entry.1 && same value entry.2) && sameEntries rest right

end

def haveDistinctKeys : List (Value × Value) → Bool
  | [] => true
  | (key, _) :: rest => (rest.all fun entry => !key.same entry.1) && haveDistinctKeys rest

/-! ## Plain scalars -/

def isNullText (text : String) : Bool :=
  text = "~" || text = "null" || text = "Null" || text = "NULL"

def boolOf? (text : String) : Option Bool :=
  if text = "true" || text = "True" || text = "TRUE" then some true
  else if text = "false" || text = "False" || text = "FALSE" then some false
  else none

def naturalOf? (base : Nat) (digits : List Char) : Option Nat := do
  guard !digits.isEmpty
  let values ← digits.mapM hexDigit?
  guard (values.all (· < base))
  return values.foldl (fun number value => base * number + value) 0

/-- Digits after a needless zero, perhaps with a sign, are no number. -/
def isPadded (text : List Char) : Bool :=
  let digits := if text.head?.any fun c => c = '+' || c = '-' then text.tail else text
  1 < digits.length && digits.head? = some '0' && digits.all Char.isDigit

def magnitudeOf? (text : List Char) : Option Nat :=
  match text with
  | '0' :: 'x' :: digits => naturalOf? 16 digits
  | '0' :: 'o' :: digits => naturalOf? 8 digits
  | '0' :: 'b' :: digits => naturalOf? 2 digits
  | digits => if isPadded digits then none else naturalOf? 10 digits

def integerOf? : List Char → Option Int
  | '-' :: text => (magnitudeOf? text).map fun magnitude => -(magnitude : Int)
  | '+' :: text => (magnitudeOf? text).map fun magnitude => magnitude
  | text => (magnitudeOf? text).map fun magnitude => magnitude

/-- An integer has at most sixty-four bits, and a sign counts as one if it is negative. -/
def isLong (value : Int) : Bool := -(Nat.pow 2 63 : Int) ≤ value && value < (Nat.pow 2 64 : Int)

def isVeryLong (value : Int) : Bool :=
  -(Nat.pow 2 127 : Int) ≤ value && value < (Nat.pow 2 128 : Int)

def doubleOf? (text : String) : Option Binary64 :=
  let unsigned := if text.toList.head? = some '+' then text.toList.tail else text.toList
  let word := String.ofList unsigned
  if text.toList.head? = some '+' && (unsigned.head?.any fun c => c = '+' || c = '-') then none
  else if word = ".inf" || word = ".Inf" || word = ".INF" then some .infinity
  else if text = "-.inf" || text = "-.Inf" || text = "-.INF" then some Binary64.infinity.negate
  else if text = ".nan" || text = ".NaN" || text = ".NAN" then some .nan
  else (Binary64.read word).toOption.filter Binary64.isFinite

def ofWord (text : String) : Value :=
  if isPadded text.toList then .string text
  else
    match doubleOf? text with
    | some value => .double value
    | none => .string text

/-- The value of a plain scalar. An integer that is too long for one is refused, unless it is so
long that it counts as a rounded number. -/
def ofPlain (text : String) : Option Value :=
  if text.isEmpty || isNullText text then some .null
  else
    match boolOf? text, integerOf? text.toList with
    | some value, _ => some (.bool value)
    | none, some value =>
        if isLong value then some (.integer value)
        else if isVeryLong value then none
        else some (ofWord text)
    | none, none => some (ofWord text)

/-! ## Tags -/

inductive TagMeaning
  | null
  | bool
  | integer
  | double
  | string
  | label (name : String)

/-- The meaning of a tag. One of the text's own that is not even text has none. -/
def meaningOf? (tag : List UInt8) : Option TagMeaning :=
  match String.fromUTF8? ⟨tag.toArray⟩ with
  | some "tag:yaml.org,2002:null" => some .null
  | some "tag:yaml.org,2002:bool" => some .bool
  | some "tag:yaml.org,2002:int" => some .integer
  | some "tag:yaml.org,2002:float" => some .double
  | some text =>
      match text.toList with
      | '!' :: name => some (.label (String.ofList name))
      | _ => some .string
  | none => if tag.head? = '!'.toUInt8 then none else some .string

def labelled (name : String) (content : Value) : Option Value :=
  if name.isEmpty then none else some (.tagged name content)

def ofUntagged (text : String) (isPlain : Bool) : Option Value :=
  if isPlain then ofPlain text else some (.string text)

def ofScalar (tag : Option (List UInt8)) (text : String) (isPlain : Bool) : Option Value :=
  match tag.bind meaningOf? with
  | none => ofUntagged text isPlain
  | some .null => if isNullText text then some .null else none
  | some .bool => (boolOf? text).map .bool
  | some .integer => ((integerOf? text.toList).filter isLong).map .integer
  | some .double => (doubleOf? text).map .double
  | some .string => some (.string text)
  | some (.label name) => (ofUntagged text isPlain).bind (labelled name)

/-- The value of a collection with perhaps a tag, of which only one of the text's own counts. -/
def ofCollection (tag : Option (List UInt8)) (content : Value) : Option Value :=
  match tag.bind meaningOf? with
  | some (.label name) => labelled name content
  | _ => some content

end Value

/-! ## Anchors -/

namespace Tree

abbrev Names := List (String × Nat)

/-- Notes an anchor: its number is how many names there are before it. -/
def noteAnchor (name : String) (names : Names) : Nat × Names :=
  (names.length,
    if names.any fun entry => entry.1 = name then
      names.map fun entry => if entry.1 = name then (name, names.length) else entry
    else names ++ [(name, names.length)])

def numberProperties (properties : Properties String) :
    StateT Names Option (Properties Nat) := do
  match properties.anchor with
  | some name =>
      let number ← modifyGet (noteAnchor name)
      return { anchor := some number, tag := properties.tag }
  | none => return { anchor := none, tag := properties.tag }

mutual

/-- Numbers the anchors in the order in which they are written. An alias must follow its anchor. -/
def number : Tree String → StateT Names Option (Tree Nat)
  | .alias name => do
      let some entry := (← get).find? fun entry => entry.1 = name | failure
      return .alias entry.2
  | .scalar properties text isPlain => do
      return .scalar (← numberProperties properties) text isPlain
  | .sequence properties items => do
      return .sequence (← numberProperties properties) (← numberItems items)
  | .mapping properties entries => do
      return .mapping (← numberProperties properties) (← numberEntries entries)

def numberItems : List (Tree String) → StateT Names Option (List (Tree Nat))
  | [] => return []
  | item :: rest => do return (← number item) :: (← numberItems rest)

def numberEntries :
    List (Tree String × Tree String) → StateT Names Option (List (Tree Nat × Tree Nat))
  | [] => return []
  | (key, value) :: rest => do
      return (← number key, ← number value) :: (← numberEntries rest)

end

def underAnchor (properties : Properties Nat) (tree : Tree Nat) : List (Nat × Tree Nat) :=
  (properties.anchor.map fun anchor => (anchor, tree)).toList

mutual

def anchored : Tree Nat → List (Nat × Tree Nat)
  | .alias _ => []
  | .scalar properties text isPlain => underAnchor properties (.scalar properties text isPlain)
  | .sequence properties items =>
      underAnchor properties (.sequence properties items) ++ anchoredItems items
  | .mapping properties entries =>
      underAnchor properties (.mapping properties entries) ++ anchoredEntries entries

def anchoredItems : List (Tree Nat) → List (Nat × Tree Nat)
  | [] => []
  | item :: rest => anchored item ++ anchoredItems rest

def anchoredEntries : List (Tree Nat × Tree Nat) → List (Nat × Tree Nat)
  | [] => []
  | (key, value) :: rest => anchored key ++ anchored value ++ anchoredEntries rest

end

mutual

/-- The size of a tree: collections count at their start and at their end. -/
def size : Tree Nat → Nat
  | .alias _ | .scalar .. => 1
  | .sequence _ items => 2 + sizeItems items
  | .mapping _ entries => 2 + sizeEntries entries

def sizeItems : List (Tree Nat) → Nat
  | [] => 0
  | item :: rest => size item + sizeItems rest

def sizeEntries : List (Tree Nat × Tree Nat) → Nat
  | [] => 0
  | (key, value) :: rest => size key + size value + sizeEntries rest

end

end Tree

/-! ## Documents -/

namespace Value

def depthLimit : Nat := 128

/-- Counts that an alias is followed; only so many may be. -/
def follow (limit : Nat) : StateT Nat Option Unit := do
  modify (· + 1)
  guard ((← get) ≤ limit)

/-- The value of a node, given the nodes that aliases stand for and how often aliases may be
followed. Collections may be nested `depth` deep. The fuel is twice the depth and two. -/
def ofNode (nodes : Nat → Option (Tree Nat)) (limit : Nat) :
    Nat → Nat → Tree Nat → StateT Nat Option Value
  | 0, _, _ => failure
  | fuel + 1, depth, tree => do
      match tree with
      | .alias anchor =>
          follow limit
          ofNode nodes limit fuel depth (← nodes anchor)
      | .scalar properties text isPlain => ofScalar properties.tag text isPlain
      | .sequence properties items =>
          guard (depth ≠ 0)
          let items ← items.mapM (ofNode nodes limit fuel (depth - 1))
          ofCollection properties.tag (.sequence items)
      | .mapping properties entries =>
          guard (depth ≠ 0)
          let entries ← entries.mapM fun (key, value) => do
            return (← ofNode nodes limit fuel (depth - 1) key,
              ← ofNode nodes limit fuel (depth - 1) value)
          guard (haveDistinctKeys entries)
          ofCollection properties.tag (.mapping entries)

/-- The value of a document. Of several anchors of one number the last counts. -/
def ofDocument (document : Tree String) : Option Value := do
  let (tree, _) ← document.number []
  let table := tree.anchored.reverse
  let nodes (anchor : Nat) : Option (Tree Nat) :=
    (table.find? fun entry => entry.1 = anchor).map Prod.snd
  let (value, _) ← ofNode nodes (100 * tree.size) (2 * depthLimit + 2) depthLimit tree 0
  return value

def readAll (text : List Char) : Option (List Value) := do
  (← Tree.readAll text).mapM ofDocument

/-! ## Parts of values -/

def untagged : Value → Value
  | .tagged _ content => untagged content
  | value => value

def string? (value : Value) : Option String :=
  match value.untagged with
  | .string text => some text
  | _ => none

def bool? (value : Value) : Option Bool :=
  match value.untagged with
  | .bool value => some value
  | _ => none

def items? (value : Value) : Option (List Value) :=
  match value.untagged with
  | .sequence items => some items
  | .null => some []
  | _ => none

def list? {α : Type} (read : Value → Option α) (value : Value) : Option (List α) := do
  (← value.items?).mapM read

def fields? (value : Value) : Option (List (String × Value)) :=
  match value.untagged with
  | .mapping entries => entries.mapM fun (key, value) => do return (← key.string?, value)
  | .null => some []
  | _ => none

def optional? {α : Type} (read : Value → Option α) : Value → Option (Option α)
  | .null => some none
  | value => (read value).map some

/-- What `read` makes of the field `name`, which may be absent but not given twice. -/
def field? {α : Type} (fields : List (String × Value)) (name : String)
    (read : Value → Option α) : Option (Option α) :=
  match fields.filter fun field => field.1 = name with
  | [] => some none
  | [field] => (read field.2).map some
  | _ => none

def optionalField? {α : Type} (fields : List (String × Value)) (name : String)
    (read : Value → Option α) : Option (Option α) :=
  (field? fields name (optional? read)).map Option.join

mutual

/-- The value has no tags of the text's own, and only texts as keys. -/
def isData : Value → Bool
  | .sequence items => areData items
  | .mapping entries => areDataEntries entries
  | .tagged .. => false
  | _ => true

def areData : List Value → Bool
  | [] => true
  | item :: rest => isData item && areData rest

/-- All entries are data; their keys may have tags. -/
def areDataEntries : List (Value × Value) → Bool
  | [] => true
  | (key, value) :: rest => key.string?.isSome && isData value && areDataEntries rest

end

end Value

end ClusterCache.Yaml
