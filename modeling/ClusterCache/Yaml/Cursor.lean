/-!
# Places in a YAML text

A cursor is a place in a text: what follows it, and how many bytes, lines and columns come before.
Scans read from a cursor on, and fail where the text is no YAML. A text may hold tabs, line breaks
and printable characters only.
-/

namespace ClusterCache.Yaml

/-! ## Characters -/

def isReadable (c : Char) : Bool :=
  c = '\t' || c = '\n' || c = '\r' || (0x20 ≤ c.toNat && c.toNat ≤ 0x7E) || c.toNat = 0x85
    || (0xA0 ≤ c.toNat && c.toNat ≤ 0xFFFD) || 0x10000 ≤ c.toNat

def isBlank (c : Char) : Bool := c = ' ' || c = '\t'

def isBreak (c : Char) : Bool :=
  c = '\n' || c = '\r' || c.toNat = 0x85 || c.toNat = 0x2028 || c.toNat = 0x2029

def isWordChar (c : Char) : Bool := c.isAlphanum || c = '_' || c = '-'

/-! ## Cursors -/

structure Cursor where
  rest : List Char
  /-- How many bytes come before. -/
  index : Nat
  line : Nat
  column : Nat

namespace Cursor

def start (text : List Char) : Cursor := ⟨text, 0, 0, 0⟩

def advance (cursor : Cursor) : Cursor :=
  match cursor.rest with
  | [] => cursor
  | c :: rest =>
      { cursor with rest, index := cursor.index + c.utf8Size, column := cursor.column + 1 }

/-- The place after the next character, which ends the line. A carriage return and a line feed are
one line break. -/
def advanceLine (cursor : Cursor) : Cursor :=
  match cursor.rest with
  | [] => cursor
  | '\r' :: '\n' :: rest => ⟨rest, cursor.index + 2, cursor.line + 1, 0⟩
  | c :: rest => ⟨rest, cursor.index + c.utf8Size, cursor.line + 1, 0⟩

/-- The character `offset` places ahead fulfils `holds`; there may be none. -/
def check (cursor : Cursor) (offset : Nat) (holds : Char → Bool) : Bool :=
  cursor.rest[offset]?.any holds

/-- The character `offset` places ahead fulfils `holds`, or the text ends there. -/
def checkOrEnd (cursor : Cursor) (offset : Nat) (holds : Char → Bool) : Bool :=
  cursor.rest[offset]?.all holds

def isGapAt (cursor : Cursor) (offset : Nat) : Bool :=
  cursor.checkOrEnd offset fun c => isBlank c || isBreak c

/-- Three equal characters on their own stand at the start of a line. -/
def isMarkerOf (cursor : Cursor) (c : Char) : Bool :=
  cursor.column = 0 && cursor.rest.take 3 = [c, c, c] && cursor.isGapAt 3

def isMarker (cursor : Cursor) : Bool := cursor.isMarkerOf '-' || cursor.isMarkerOf '.'

end Cursor

/-! ## Scans -/

abbrev Scan (α : Type) := StateT Cursor Option α

namespace Scan

def ask {α : Type} (question : Cursor → α) : Scan α := return question (← get)

def peek : Scan (Option Char) := ask fun cursor => cursor.rest.head?

def sees (c : Char) : Scan Bool := ask fun cursor => cursor.check 0 (· = c)

def skip : Scan Unit := modify Cursor.advance

def skipMany (count : Nat) : Scan Unit :=
  modify fun cursor => Nat.repeat Cursor.advance count cursor

def takeWhile (holds : Char → Bool) : Scan (List Char) := fun cursor =>
  let taken := cursor.rest.takeWhile holds
  some (taken, Nat.repeat Cursor.advance taken.length cursor)

def skipBlanks : Scan Unit := do
  let _ ← takeWhile isBlank

def skipLine : Scan Unit := do
  let _ ← takeWhile fun c => !isBreak c

/-- The line break that comes next, if there is one. The breaks of plain text are all the same. -/
def takeBreak : Scan (List Char) := fun cursor =>
  match cursor.rest with
  | c :: _ =>
      if c.toNat = 0x2028 || c.toNat = 0x2029 then some ([c], cursor.advanceLine)
      else if isBreak c then some (['\n'], cursor.advanceLine)
      else some ([], cursor)
  | [] => some ([], cursor)

def finishLine : Scan Unit := do
  skipBlanks
  if ← sees '#' then skipLine
  guard (← ask fun cursor => cursor.checkOrEnd 0 isBreak)
  let _ ← takeBreak

end Scan

end ClusterCache.Yaml
