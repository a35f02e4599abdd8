import ClusterCache.Yaml.Token.Scalar

/-!
# Names, tags and directives in a YAML text

Anchors and aliases have names. A tag is given in full between angle brackets, or shortened by a
handle. Directives stand before a document and state its version or what a handle stands for.
-/

namespace ClusterCache.Yaml

open Scan

def bytesOf (characters : List Char) : List UInt8 := (String.ofList characters).toUTF8.toList

/-! ## Anchors and aliases -/

def nodeName : Scan String := do
  skip
  let name ← takeWhile isWordChar
  let cursor ← get
  guard (!name.isEmpty && (cursor.isGapAt 0 || cursor.check 0 fun c =>
    c = '?' || c = ':' || c = ',' || c = ']' || c = '\x7d' || c = '%' || c = '@'
      || c.toNat = 0x60))
  return String.ofList name

/-! ## Tags -/

/-- A character of a tag. Lists of characters in brackets may hold tags that are not in angle
brackets, so a comma and brackets are for those only. -/
def isTagChar (inBrackets : Bool) (c : Char) : Bool :=
  isWordChar c || ";/?:@&=+$.%!~*'()".toList.contains c
    || (inBrackets && (c = ',' || c = '[' || c = ']'))

def escapedByte : Scan Nat := do
  let some [high, low] := (((← get).rest.drop 1).take 2).mapM hexDigit? | failure
  guard (← sees '%')
  skipMany 3
  return 16 * high + low

def laterBytes : Nat → Scan (List UInt8)
  | 0 => return []
  | count + 1 => do
      let byte ← escapedByte
      guard (byte / 64 = 2)
      return byte.toUInt8 :: (← laterBytes count)

def escapedBytes : Scan (List UInt8) := do
  let first ← escapedByte
  let later ←
    if first < 0x80 then laterBytes 0
    else if first / 32 = 6 then laterBytes 1
    else if first / 16 = 14 then laterBytes 2
    else if first / 8 = 30 then laterBytes 3
    else failure
  return first.toUInt8 :: later

def tagChars (inBrackets : Bool) : Nat → List UInt8 → Scan (List UInt8)
  | 0, done => return done
  | fuel + 1, done => do
      match ← peek with
      | some c =>
          if !isTagChar inBrackets c then return done
          else if c = '%' then
            let bytes ← escapedBytes
            tagChars inBrackets fuel (done ++ bytes)
          else
            skip
            tagChars inBrackets fuel (done ++ bytesOf [c])
      | none => return done

def tagText (inBrackets : Bool) : Scan (List UInt8) := do
  let text ← tagChars inBrackets (← get).rest.length []
  guard (!text.isEmpty)
  return text

def tagHandle : Scan (List Char) := do
  guard (← sees '!')
  skip
  let word ← takeWhile isWordChar
  if ← sees '!' then
    skip
    return '!' :: (word ++ ['!'])
  else return '!' :: word

def tag : Scan (String × List UInt8) := do
  if ← ask fun cursor => cursor.check 1 (· = '<') then
    skipMany 2
    let text ← tagText true
    guard (← sees '>')
    skip
    return ("", text)
  else
    let handle ← tagHandle
    if 1 < handle.length && handle.getLast? = some '!' then
      return (String.ofList handle, ← tagText false)
    else
      let suffix ← tagChars false (← get).rest.length (bytesOf handle.tail)
      if suffix.isEmpty then return ("", bytesOf ['!']) else return ("!", suffix)

/-- A tag ends with a blank, the end of the line, or before a comma within brackets. -/
def tagEnd (inFlow : Bool) : Scan Unit := do
  guard (← ask fun cursor => cursor.isGapAt 0 || (inFlow && cursor.check 0 (· = ',')))

/-! ## Directives -/

/-- A number of at most nine digits. -/
def directiveNumber : Scan Nat := do
  let digits ← takeWhile Char.isDigit
  guard (!digits.isEmpty && digits.length ≤ 9)
  return digits.foldl (fun value c => 10 * value + (c.toNat - '0'.toNat)) 0

def versionValue : Scan (Nat × Nat) := do
  skipBlanks
  let major ← directiveNumber
  guard (← sees '.')
  skip
  return (major, ← directiveNumber)

def shorthandValue : Scan (String × List UInt8) := do
  skipBlanks
  let handle ← tagHandle
  guard (handle = ['!'] || handle.getLast? = some '!')
  guard (← ask fun cursor => cursor.check 0 isBlank)
  skipBlanks
  let text ← tagText true
  guard (← ask fun cursor => cursor.isGapAt 0)
  return (String.ofList handle, text)

end ClusterCache.Yaml
