import ClusterCache.Yaml.Cursor

/-!
# Scalars in a YAML text

A scalar is a text in one of five styles: plain, in single or double quotes, or as a block whose
line breaks are kept or folded. In all but the blocks a single line break counts as a space, and of
several the first is dropped.
-/

namespace ClusterCache.Yaml

open Scan

/-! ## Gaps -/

structure Gap where
  isBroken : Bool
  blanks : List Char
  firstBreak : List Char
  laterBreaks : List Char

namespace Gap

def empty : Gap := ⟨false, [], [], []⟩

def text (gap : Gap) : List Char :=
  if !gap.isBroken then gap.blanks
  else if gap.firstBreak ≠ ['\n'] then gap.firstBreak ++ gap.laterBreaks
  else if gap.laterBreaks.isEmpty then [' ']
  else gap.laterBreaks

/-- Goes to the end of a gap. No tab may stand before column `indent` on a new line. -/
def scan (indent : Int) : Nat → Gap → Scan Gap
  | 0, gap => return gap
  | fuel + 1, gap => do
      match ← peek with
      | some c =>
          if isBlank c then
            if gap.isBroken && c = '\t' && (← get).column < indent then failure
            skip
            scan indent fuel
              (if gap.isBroken then gap else { gap with blanks := gap.blanks ++ [c] })
          else if isBreak c then
            let line ← takeBreak
            scan indent fuel
              (if gap.isBroken then { gap with laterBreaks := gap.laterBreaks ++ line }
              else { gap with isBroken := true, blanks := [], firstBreak := line })
          else return gap
      | none => return gap

end Gap

/-! ## Plain scalars -/

/-- A plain scalar ends before the next character. Within brackets it also ends before them. -/
def endsPlain (inFlow : Bool) (cursor : Cursor) : Bool :=
  cursor.isGapAt 0 || (cursor.check 0 (· = ':') && cursor.isGapAt 1)
    || (inFlow && cursor.check 0 fun c =>
      c = ',' || c = '[' || c = ']' || c = '\x7b' || c = '\x7d')

/-- The part of a plain scalar up to the next gap. Within brackets a colon must not touch one. -/
def plainPart (inFlow : Bool) : Nat → List Char → Scan (List Char)
  | 0, done => return done.reverse
  | fuel + 1, done => do
      let cursor ← get
      if inFlow && cursor.check 0 (· = ':') && (cursor.check 1 fun c =>
          c = ',' || c = '?' || c = '[' || c = ']' || c = '\x7b' || c = '\x7d') then failure
      match cursor.rest with
      | c :: _ =>
          if endsPlain inFlow cursor then return done.reverse
          skip
          plainPart inFlow fuel (c :: done)
      | [] => return done.reverse

/-- A plain scalar from a gap on, and whether a line has ended after it. Outside of brackets its
lines are indented more than what it belongs to. -/
def plainRest (inFlow : Bool) (indent : Int) : Nat → Gap → List Char → Scan (List Char × Bool)
  | 0, gap, done => return (done, gap.isBroken)
  | fuel + 1, gap, done => do
      let cursor ← get
      if cursor.isMarker || cursor.check 0 (· = '#') then return (done, gap.isBroken)
      let part ← plainPart inFlow cursor.rest.length []
      let (gap, done) :=
        if part.isEmpty then (gap, done) else (Gap.empty, done ++ gap.text ++ part)
      let before ← get
      if !before.check 0 fun c => isBlank c || isBreak c then return (done, gap.isBroken)
      let gap ← Gap.scan indent before.rest.length gap
      if !inFlow && ((← get).column : Int) < indent then return (done, gap.isBroken)
      plainRest inFlow indent fuel gap done

def plainScalar (inFlow : Bool) (indent : Int) : Scan (String × Bool) := do
  let (text, isBroken) ← plainRest inFlow (indent + 1) (← get).rest.length .empty []
  return (String.ofList text, isBroken)

/-! ## Quoted scalars -/

def escapedChar? : Char → Option Char
  | '0' => some '\x00'
  | 'a' => some '\x07'
  | 'b' => some '\x08'
  | 't' | '\t' => some '\t'
  | 'n' => some '\n'
  | 'v' => some '\x0b'
  | 'f' => some '\x0c'
  | 'r' => some '\r'
  | 'e' => some '\x1b'
  | ' ' => some ' '
  | '"' => some '"'
  | '/' => some '/'
  | '\\' => some '\\'
  | 'N' => some '\u0085'
  | '_' => some '\u00a0'
  | 'L' => some '\u2028'
  | 'P' => some '\u2029'
  | _ => none

def escapedDigits? : Char → Option Nat
  | 'x' => some 2
  | 'u' => some 4
  | 'U' => some 8
  | _ => none

def hexDigit? (c : Char) : Option Nat :=
  if '0' ≤ c && c ≤ '9' then some (c.toNat - '0'.toNat)
  else if 'a' ≤ c && c ≤ 'f' then some (c.toNat - 'a'.toNat + 10)
  else if 'A' ≤ c && c ≤ 'F' then some (c.toNat - 'A'.toNat + 10)
  else none

def numberedChar (count : Nat) : Scan Char := do
  let some digits := ((← get).rest.take count).mapM hexDigit? | failure
  guard (digits.length = count)
  let number := digits.foldl (fun number digit => 16 * number + digit) 0
  skipMany count
  if number.isValidChar then return Char.ofNat number else failure

def escapedChar : Scan Char := do
  skip
  let some letter ← peek | failure
  skip
  match escapedChar? letter, escapedDigits? letter with
  | some c, _ => return c
  | none, some count => numberedChar count
  | none, none => failure

/-- The part of a quoted scalar up to the next gap or the closing quote, and whether it ends with
an escaped line break. -/
def quotedPart (quote : Char) : Nat → List Char → Scan (List Char × Bool)
  | 0, done => return (done.reverse, false)
  | fuel + 1, done => do
      let cursor ← get
      match cursor.rest with
      | c :: _ =>
          if isBlank c || isBreak c then return (done.reverse, false)
          else if c = quote then
            if quote = '\'' && cursor.check 1 (· = quote) then
              skipMany 2
              quotedPart quote fuel (c :: done)
            else return (done.reverse, false)
          else if quote = '"' && c = '\\' then
            if cursor.check 1 isBreak then
              skip
              let _ ← takeBreak
              return (done.reverse, true)
            else
              let c ← escapedChar
              quotedPart quote fuel (c :: done)
          else
            skip
            quotedPart quote fuel (c :: done)
      | [] => return (done.reverse, false)

def quotedRest (quote : Char) : Nat → List Char → Scan (List Char)
  | 0, _ => failure
  | fuel + 1, done => do
      let cursor ← get
      if cursor.isMarker || cursor.rest.isEmpty then failure
      let (part, isBroken) ← quotedPart quote cursor.rest.length []
      if ← sees quote then
        skip
        return done ++ part
      let gap ← Gap.scan 0 cursor.rest.length { Gap.empty with isBroken }
      quotedRest quote fuel (done ++ part ++ gap.text)

def quotedScalar (quote : Char) : Scan String := do
  skip
  return String.ofList (← quotedRest quote ((← get).rest.length + 1) [])

/-! ## Block scalars -/

inductive Chomping
  | strip
  | clip
  | keep
deriving DecidableEq, Repr

def chomping? : Scan (Option Chomping) := do
  match ← peek with
  | some '+' =>
      skip
      return some .keep
  | some '-' =>
      skip
      return some .strip
  | _ => return none

def increment? : Scan (Option Nat) := do
  match ← peek with
  | some c =>
      if !c.isDigit then return none
      guard (c ≠ '0')
      skip
      return some (c.toNat - '0'.toNat)
  | none => return none

def blockHeader : Scan (Chomping × Option Nat) := do
  match ← chomping? with
  | some chomping => return (chomping, ← increment?)
  | none =>
      match ← increment? with
      | some increment => return ((← chomping?).getD .clip, some increment)
      | none => return (.clip, none)

/-- The empty lines and the indentation before a line of a block scalar; `none` stands for an
indentation that is not yet known. The result is the line breaks and the widest indentation. -/
def blockBreaks (indent : Option Nat) : Nat → Nat → List Char → Scan (List Char × Nat)
  | 0, widest, breaks => return (breaks, widest)
  | fuel + 1, widest, breaks => do
      let before ← get
      let spaces := (before.rest.takeWhile (· = ' ')).length
      skipMany (min spaces ((indent.map (· - before.column)).getD spaces))
      let cursor ← get
      let widest := max widest cursor.column
      if cursor.check 0 (· = '\t') && indent.all (cursor.column < ·) then failure
      let line ← takeBreak
      if line.isEmpty then return (breaks, widest)
      blockBreaks indent fuel widest (breaks ++ line)

/-- The lines of a block scalar. `pending` is the break of the last line, `breaks` those of the
empty lines after it. The result ends with what is pending. -/
def blockLines (isFolded : Bool) (indent : Nat) :
    Nat → Bool → List Char → List Char → List Char → Scan (List Char × List Char × List Char)
  | 0, _, pending, breaks, done => return (done, pending, breaks)
  | fuel + 1, afterBlank, pending, breaks, done => do
      let cursor ← get
      if cursor.column ≠ indent || cursor.rest.isEmpty then return (done, pending, breaks)
      let startsBlank := cursor.check 0 isBlank
      let joint :=
        if isFolded && pending = ['\n'] && !afterBlank && !startsBlank then
          (if breaks.isEmpty then [' '] else breaks)
        else pending ++ breaks
      let line ← takeWhile fun c => !isBreak c
      let pending ← takeBreak
      let (breaks, _) ← blockBreaks (some indent) cursor.rest.length 0 []
      blockLines isFolded indent fuel startsBlank pending breaks (done ++ joint ++ line)

/-- A block scalar. Its indentation is stated relative to `parent`, or that of its first line. -/
def blockScalar (parent : Int) : Scan String := do
  let isFolded ← sees '>'
  skip
  let (chomping, increment) ← blockHeader
  finishLine
  let fuel := (← get).rest.length + 1
  let stated := increment.map fun increment => (max parent 0).toNat + increment
  let (breaks, widest) ← blockBreaks stated fuel 0 []
  let indent := stated.getD (max (max widest (parent + 1).toNat) 1)
  let (text, pending, breaks) ← blockLines isFolded indent fuel false [] breaks []
  match chomping with
  | .strip => return String.ofList text
  | .clip => return String.ofList (text ++ pending)
  | .keep => return String.ofList (text ++ pending ++ breaks)

end ClusterCache.Yaml
