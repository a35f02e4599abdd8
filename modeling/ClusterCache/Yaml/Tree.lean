import ClusterCache.Yaml.Token.Lexer

/-!
# YAML trees

A YAML text holds documents, each of which is a tree of scalars, sequences and mappings. A node may
have a tag, and an anchor by which an alias can stand for the node again. A tree is parametric in
what anchors are: names as they are written, or numbers that tell apart anchors of one name.
-/

namespace ClusterCache.Yaml

structure Properties (ν : Type) where
  anchor : Option ν
  tag : Option (List UInt8)

inductive Tree (ν : Type)
  | alias (anchor : ν)
  | scalar (properties : Properties ν) (text : String) (isPlain : Bool)
  | sequence (properties : Properties ν) (items : List (Tree ν))
  | mapping (properties : Properties ν) (entries : List (Tree ν × Tree ν))

instance {ν : Type} : Inhabited (Tree ν) := ⟨.scalar ⟨none, none⟩ "" true⟩

namespace Tree

def blank {ν : Type} : Tree ν := .scalar ⟨none, none⟩ "" true

def pair {ν : Type} (key value : Tree ν) : Tree ν := .mapping ⟨none, none⟩ [(key, value)]

end Tree

/-! ## From tokens to trees -/

abbrev Parsing (α : Type) := StateT (List Token) Option α

/-- What handles stand for; the first that fits counts. -/
abbrev Shorthands := List (String × List UInt8)

namespace Shorthands

def standard : Shorthands := [("!", bytesOf ['!']), ("!!", bytesOf "tag:yaml.org,2002:".toList)]

def expand? (shorthands : Shorthands) (handle : String) (suffix : List UInt8) :
    Option (List UInt8) :=
  if handle.isEmpty then some suffix
  else (shorthands.find? fun entry => entry.1 = handle).map fun entry => entry.2 ++ suffix

end Shorthands

namespace Parsing

def peek : Parsing (Option Token) := return (← get).head?

def skip : Parsing Unit := modify List.tail

def take (token : Token) : Parsing Bool := do
  if (← peek) = some token then
    skip
    return true
  else return false

def sees (tokens : List Token) : Parsing Bool :=
  return (← peek).any tokens.contains

def anchor? : Parsing (Option String) := do
  match ← peek with
  | some (.anchor name) =>
      skip
      return some name
  | _ => return none

def tag? (shorthands : Shorthands) : Parsing (Option (List UInt8)) := do
  match ← peek with
  | some (.tag handle suffix) =>
      skip
      return some (← shorthands.expand? handle suffix)
  | _ => return none

def properties (shorthands : Shorthands) : Parsing (Properties String) := do
  match ← anchor? with
  | some anchor => return { anchor := some anchor, tag := ← tag? shorthands }
  | none =>
      let tag ← tag? shorthands
      return { anchor := ← (if tag.isSome then anchor? else pure none), tag }

def blankNode (properties : Properties String) : Parsing (Tree String) := do
  guard (properties.anchor.isSome || properties.tag.isSome)
  return .scalar properties "" true

mutual

/-- A node. Blocks may start only if `block` holds; entries of a sequence may follow without a block
of their own only if `indentless` holds. -/
def node (shorthands : Shorthands) (block indentless : Bool) : Nat → Parsing (Tree String)
  | 0 => failure
  | fuel + 1 => do
      if let some (.alias name) ← peek then
        skip
        return .alias name
      let properties ← properties shorthands
      match ← peek with
      | some (.scalar text isPlain) =>
          skip
          return .scalar properties text isPlain
      | some .blockEntry =>
          if indentless then
            return .sequence properties (← indentlessSequence shorthands fuel)
          else blankNode properties
      | some .flowSequence =>
          skip
          return .sequence properties (← flowSequence shorthands true fuel)
      | some .flowMapping =>
          skip
          return .mapping properties (← flowMapping shorthands true fuel)
      | some .blockSequence =>
          if block then
            skip
            return .sequence properties (← blockSequence shorthands fuel)
          else blankNode properties
      | some .blockMapping =>
          if block then
            skip
            return .mapping properties (← blockMapping shorthands fuel)
          else blankNode properties
      | _ => blankNode properties

def nodeUnless (shorthands : Shorthands) (tokens : List Token) (block indentless : Bool) :
    Nat → Parsing (Tree String)
  | 0 => failure
  | fuel + 1 => do
      if ← sees tokens then return .blank else node shorthands block indentless fuel

def blockSequence (shorthands : Shorthands) : Nat → Parsing (List (Tree String))
  | 0 => failure
  | fuel + 1 => do
      if ← take .blockEntry then
        let item ← nodeUnless shorthands [.blockEntry, .blockEnd] true false fuel
        return item :: (← blockSequence shorthands fuel)
      else if ← take .blockEnd then return []
      else failure

def indentlessSequence (shorthands : Shorthands) : Nat → Parsing (List (Tree String))
  | 0 => failure
  | fuel + 1 => do
      if ← take .blockEntry then
        let item ←
          nodeUnless shorthands [.blockEntry, .key, .value, .blockEnd] true false fuel
        return item :: (← indentlessSequence shorthands fuel)
      else return []

def blockMapping (shorthands : Shorthands) : Nat → Parsing (List (Tree String × Tree String))
  | 0 => failure
  | fuel + 1 => do
      if ← take .key then
        let key ← nodeUnless shorthands [.key, .value, .blockEnd] true true fuel
        let value ← blockValue shorthands fuel
        return (key, value) :: (← blockMapping shorthands fuel)
      else if ← take .blockEnd then return []
      else failure

def blockValue (shorthands : Shorthands) : Nat → Parsing (Tree String)
  | 0 => failure
  | fuel + 1 => do
      if ← take .value then nodeUnless shorthands [.key, .value, .blockEnd] true true fuel
      else return .blank

def flowSequence (shorthands : Shorthands) (first : Bool) : Nat → Parsing (List (Tree String))
  | 0 => failure
  | fuel + 1 => do
      if ← take .flowSequenceEnd then return []
      if !first then guard (← take .flowEntry)
      if ← take .key then
        let item ← flowPair shorthands fuel
        return item :: (← flowSequence shorthands false fuel)
      else if ← take .flowSequenceEnd then return []
      else
        let item ← node shorthands false false fuel
        return item :: (← flowSequence shorthands false fuel)

/-- A single key and its value within brackets. If the key is missing, the token in its place is
left out. -/
def flowPair (shorthands : Shorthands) : Nat → Parsing (Tree String)
  | 0 => failure
  | fuel + 1 => do
      let ends := [Token.flowEntry, Token.flowSequenceEnd]
      let key ←
        if ← sees (.value :: ends) then
          skip
          pure .blank
        else node shorthands false false fuel
      let value ←
        if ← take .value then nodeUnless shorthands ends false false fuel else pure .blank
      return .pair key value

def flowMapping (shorthands : Shorthands) (first : Bool) :
    Nat → Parsing (List (Tree String × Tree String))
  | 0 => failure
  | fuel + 1 => do
      if ← take .flowMappingEnd then return []
      if !first then guard (← take .flowEntry)
      if ← take .key then
        let key ← nodeUnless shorthands [.value, .flowEntry, .flowMappingEnd] false false fuel
        let value ←
          if ← take .value then
            nodeUnless shorthands [.flowEntry, .flowMappingEnd] false false fuel
          else pure .blank
        return (key, value) :: (← flowMapping shorthands false fuel)
      else if ← take .flowMappingEnd then return []
      else
        let key ← node shorthands false false fuel
        return (key, .blank) :: (← flowMapping shorthands false fuel)

end

/-! ## Documents -/

/-- The directives before a document: whether there is one of a version, and what handles stand for.
Each may be given once. -/
def directives (hasVersion : Bool) (shorthands : Shorthands) : Nat → Parsing Shorthands
  | 0 => failure
  | fuel + 1 => do
      match ← peek with
      | some (.version major minor) =>
          guard (!hasVersion && major = 1 && (minor = 1 || minor = 2))
          skip
          directives true shorthands fuel
      | some (.shorthand handle expansion) =>
          guard (shorthands.all fun entry => entry.1 ≠ handle)
          skip
          directives hasVersion (shorthands ++ [(handle, expansion)]) fuel
      | _ => return shorthands ++ .standard

def seesDirective : Parsing Bool := do
  match ← peek with
  | some (.version ..) | some (.shorthand ..) => return true
  | _ => return false

def skipEnds : Nat → Parsing Unit
  | 0 => return
  | fuel + 1 => do
      if ← take .documentEnd then skipEnds fuel

/-- The documents of a text. Only the first may do without a mark of its start. -/
def documents (first : Bool) : Nat → Parsing (List (Tree String))
  | 0 => failure
  | fuel + 1 => do
      let size := 4 * (← get).length + 4
      if !first then skipEnds size
      if (← peek).isNone then return []
      let isImplicit := first && !(← seesDirective) && (← peek) ≠ some .documentStart
      let content ←
        if isImplicit then node .standard true false size
        else
          let shorthands ← directives false [] size
          guard (← take .documentStart)
          if (← peek).isNone || (← seesDirective) || (← sees [.documentStart, .documentEnd]) then
            pure .blank
          else node shorthands true false size
      let _ ← take .documentEnd
      return content :: (← documents false fuel)

end Parsing

def Tree.readAll (text : List Char) : Option (List (Tree String)) := do
  let tokens ← Token.scan text
  let (documents, _) ← Parsing.documents true (tokens.length + 1) tokens
  return documents

end ClusterCache.Yaml
