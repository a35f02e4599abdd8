import ClusterCache.Yaml.Token
import ClusterCache.Yaml.Token.Tag

/-!
# The tokens of a YAML text

Tokens are found one after the other. Two things reach back: a line that is indented more than the
one before starts a block, and a colon turns what comes before it on its line into a key. So the
lexer remembers the open blocks, and for each open bracket the place where a key may have started.
-/

namespace ClusterCache.Yaml

/-- A place where a key may have started. -/
structure KeyStart where
  /-- There must be a key, since the block that is open here consists of keys and values. -/
  required : Bool
  position : Nat
  index : Nat
  line : Nat
  column : Nat

structure Lexer where
  cursor : Cursor
  tokens : Array Token
  /-- The column of the innermost open block; less than all columns if there is none. -/
  indent : Int
  outer : List Int
  /-- Where a key may have started outside of all brackets, or within the innermost ones. -/
  start : Option KeyStart
  /-- The same for the brackets around it, the innermost first. -/
  outerStarts : List (Option KeyStart)
  allowsKey : Bool

abbrev Lexing (α : Type) := StateT Lexer Option α

namespace Lexer

def begin (text : List Char) : Lexer :=
  { cursor := .start text, tokens := #[], indent := -1, outer := [], start := none,
    outerStarts := [], allowsKey := true }

def inFlow (lexer : Lexer) : Bool := !lexer.outerStarts.isEmpty

def keyLimit : Nat := 1024

/-- A key that started at `start` may still end at the cursor: it is on one line, and short. -/
def reaches (lexer : Lexer) (start : KeyStart) : Bool :=
  start.line = lexer.cursor.line && lexer.cursor.index ≤ start.index + keyLimit

end Lexer

namespace Lexing

def scan {α : Type} (scan : Scan α) : Lexing α := do
  let (value, cursor) ← scan (← get).cursor
  modify fun lexer => { lexer with cursor }
  return value

def emit (token : Token) : Lexing Unit :=
  modify fun lexer => { lexer with tokens := lexer.tokens.push token }

/-- Puts a token in front of those after the first `position`. -/
def emitAt (position : Nat) (token : Token) : Lexing Unit :=
  modify fun lexer => { lexer with tokens := lexer.tokens.insertIdxIfInBounds position token }

def allowKey (allowsKey : Bool) : Lexing Unit := modify fun lexer => { lexer with allowsKey }

def openBlock (column : Nat) (position : Nat) (token : Token) : Lexing Unit := do
  let lexer ← get
  if !lexer.inFlow && lexer.indent < column then
    set { lexer with indent := column, outer := lexer.indent :: lexer.outer }
    emitAt position token

def closeBlocksOf (column : Int) : List Int → Lexing Unit
  | [] => return
  | indent :: outer => do
      if column < (← get).indent then
        modify fun lexer => { lexer with indent, outer }
        emit .blockEnd
        closeBlocksOf column outer

def closeBlocks (column : Int) : Lexing Unit := do
  let lexer ← get
  if !lexer.inFlow then closeBlocksOf column lexer.outer

def dropKey : Lexing Unit := do
  guard ((← get).start.all fun start => !start.required)
  modify fun lexer => { lexer with start := none }

def noteKey : Lexing Unit := do
  let lexer ← get
  if lexer.allowsKey then
    dropKey
    let start : KeyStart :=
      { required := !lexer.inFlow && lexer.indent = lexer.cursor.column
        position := lexer.tokens.size, index := lexer.cursor.index,
        line := lexer.cursor.line, column := lexer.cursor.column }
    modify fun lexer => { lexer with start := some start }

def take (count : Nat) (token : Token) : Lexing Unit := do
  scan (Scan.skipMany count)
  emit token

/-! ## Tokens -/

/-- Goes to the next token, past blanks, comments and line breaks. A mark of the encoding may stand
at the start of a line. No tab may stand where a key may start. -/
def skipGap : Nat → Lexing Unit
  | 0 => return
  | fuel + 1 => do
      let lexer ← get
      if lexer.cursor.column = 0 && lexer.cursor.check 0 (·.toNat = 0xFEFF) then scan .skip
      let allowsTab := lexer.inFlow || !lexer.allowsKey
      let _ ← scan (Scan.takeWhile fun c => c = ' ' || (allowsTab && c = '\t'))
      if ← scan (.sees '#') then scan .skipLine
      if (← get).cursor.check 0 isBreak then
        let _ ← scan .takeBreak
        if !lexer.inFlow then allowKey true
        skipGap fuel

def directive : Lexing Unit := do
  closeBlocks (-1)
  dropKey
  allowKey false
  scan .skip
  let name ← scan (Scan.takeWhile isWordChar)
  guard ((← get).cursor.isGapAt 0)
  match String.ofList name with
  | "YAML" =>
      let (major, minor) ← scan versionValue
      emit (.version major minor)
  | "TAG" =>
      let (handle, expansion) ← scan shorthandValue
      emit (.shorthand handle expansion)
  | _ => failure
  scan .finishLine

def marker (token : Token) : Lexing Unit := do
  closeBlocks (-1)
  dropKey
  allowKey false
  take 3 token

def openFlow (token : Token) : Lexing Unit := do
  noteKey
  modify fun lexer =>
    { lexer with start := none, outerStarts := lexer.start :: lexer.outerStarts }
  allowKey true
  take 1 token

def closeFlow (token : Token) : Lexing Unit := do
  dropKey
  modify fun lexer =>
    match lexer.outerStarts with
    | start :: outerStarts => { lexer with start, outerStarts }
    | [] => lexer
  allowKey false
  take 1 token

def flowEntry : Lexing Unit := do
  dropKey
  allowKey true
  take 1 .flowEntry

/-- Outside of brackets, a sign that may open a block stands where a key may start. -/
def opensBlock (token : Token) : Lexing Unit := do
  let lexer ← get
  if !lexer.inFlow then
    guard lexer.allowsKey
    openBlock lexer.cursor.column lexer.tokens.size token

def blockEntry : Lexing Unit := do
  opensBlock .blockSequence
  dropKey
  allowKey true
  take 1 .blockEntry

def key : Lexing Unit := do
  opensBlock .blockMapping
  dropKey
  allowKey !(← get).inFlow
  take 1 .key

def value : Lexing Unit := do
  let lexer ← get
  match lexer.start.filter lexer.reaches with
  | some start =>
      emitAt start.position .key
      openBlock start.column start.position .blockMapping
      modify fun lexer => { lexer with start := none }
      allowKey false
  | none =>
      dropKey
      opensBlock .blockMapping
      allowKey !lexer.inFlow
  take 1 .value

def keyLike (read : Scan Token) : Lexing Unit := do
  noteKey
  allowKey false
  emit (← scan read)

def tagToken : Lexing Unit := do
  let inFlow := (← get).inFlow
  keyLike do
    let (handle, suffix) ← tag
    tagEnd inFlow
    return .tag handle suffix

def blockScalarToken : Lexing Unit := do
  dropKey
  allowKey true
  emit (.scalar (← scan (blockScalar (← get).indent)) false)

/-- A plain scalar. After the end of a line a key may start. -/
def plainScalarToken : Lexing Unit := do
  noteKey
  allowKey false
  let lexer ← get
  let (text, isBroken) ← scan (plainScalar lexer.inFlow lexer.indent)
  emit (.scalar text true)
  if isBroken then allowKey true

def startsPlain (lexer : Lexer) : Bool :=
  let cursor := lexer.cursor
  (!cursor.isGapAt 0 && cursor.check 0 fun c =>
      !"-?:,[]\x7b\x7d#&*!|>'\"%@".toList.contains c && c.toNat ≠ 0x60)
    || (cursor.check 0 (· = '-') && !cursor.check 1 isBlank)
    || (!lexer.inFlow && (cursor.check 0 fun c => c = '?' || c = ':') && !cursor.isGapAt 1)

def token (c : Char) : Lexing Unit := do
  let lexer ← get
  let cursor := lexer.cursor
  if cursor.column = 0 && c = '%' then directive
  else if cursor.isMarkerOf '-' then marker .documentStart
  else if cursor.isMarkerOf '.' then marker .documentEnd
  else if c = '[' then openFlow .flowSequence
  else if c = '\x7b' then openFlow .flowMapping
  else if c = ']' then closeFlow .flowSequenceEnd
  else if c = '\x7d' then closeFlow .flowMappingEnd
  else if c = ',' then flowEntry
  else if c = '-' && cursor.isGapAt 1 then blockEntry
  else if c = '?' && (lexer.inFlow || cursor.isGapAt 1) then key
  else if c = ':' && (lexer.inFlow || cursor.isGapAt 1) then value
  else if c = '*' then keyLike do return .alias (← nodeName)
  else if c = '&' then keyLike do return .anchor (← nodeName)
  else if c = '!' then tagToken
  else if (c = '|' || c = '>') && !lexer.inFlow then blockScalarToken
  else if c = '\'' || c = '"' then keyLike do return .scalar (← quotedScalar c) false
  else if startsPlain lexer then plainScalarToken
  else failure

def rest : Nat → Lexing Unit
  | 0 => failure
  | fuel + 1 => do
      skipGap ((← get).cursor.rest.length + 1)
      closeBlocks (← get).cursor.column
      match (← get).cursor.rest.head? with
      | some c =>
          token c
          rest fuel
      | none =>
          closeBlocks (-1)
          dropKey

end Lexing

def Token.scan (text : List Char) : Option (List Token) := do
  guard (text.all isReadable)
  let text := if text.head?.any (·.toNat = 0xFEFF) then text.tail else text
  let (_, lexer) ← Lexing.rest (text.length + 1) (.begin text)
  return lexer.tokens.toList

end ClusterCache.Yaml
