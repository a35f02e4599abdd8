import ClusterCache.Text.Base64
import ClusterCache.Text.Blank

/-!
# Armored data

Data in base64 between two lines that name their kind, such as `-----BEGIN CERTIFICATE-----` and
`-----END CERTIFICATE-----`. Blocks of this form may stand anywhere in a text. Lines of headers may
come before the data, with an empty line between them.
-/

namespace ClusterCache.Text.Armor

structure Block where
  label : String
  content : List UInt8
deriving DecidableEq, Repr

/-- What comes before and after the first `marker`. A marker is noticed only if it does not start
within a failed attempt at one; `found` characters of it have been seen. -/
def cutAt (marker : List Char) : Nat → List Char → List Char → Option (List Char × List Char)
  | _, _, [] => none
  | found, before, c :: rest =>
      if marker[found]? = some c then
        if found + 1 = marker.length then
          some ((before.drop found).reverse, rest)
        else cutAt marker (found + 1) (c :: before) rest
      else cutAt marker 0 (c :: before) rest

def cut (marker : String) (text : List Char) : Option (List Char × List Char) :=
  cutAt marker.toList 0 [] text

def isSpace (c : Char) : Bool := c = ' ' || c = '\t' || c = '\n' || c = '\r'

structure Frame where
  opening : List Char
  body : List Char
  closing : List Char

def frame? (text : List Char) : Option (Frame × List Char) := do
  let (_, rest) ← cut "-----BEGIN " text
  let (opening, rest) ← cut "-----" rest
  let (body, rest) ← cut "-----END " (rest.dropWhile isSpace)
  let (closing, rest) ← cut "-----" rest
  return (⟨opening, body, closing⟩, rest.dropWhile isSpace)

/-- All blocks. The fuel is the number of characters. -/
def frames : Nat → List Char → List Frame
  | 0, _ => []
  | fuel + 1, text =>
      match frame? text with
      | some (frame, rest) => frame :: frames fuel rest
      | none => []

def parts (body : List Char) : List Char × List Char :=
  ((cut "\n\n" body).or (cut "\r\n\r\n" body)).getD ([], body)

def trimEnd (line : List Char) : List Char := (line.reverse.dropWhile isBlank).reverse

def lines (text : List Char) : List (List Char) :=
  if text.isEmpty then [] else piecesList '\n' text

/-- The block in a frame. Both labels agree, and every header has a colon. -/
def Frame.block? (frame : Frame) : Option Block := do
  guard (!frame.opening.isEmpty && frame.opening = frame.closing)
  let (headers, data) := parts frame.body
  guard ((lines (trimEnd headers)).all fun line => line.contains ':')
  let content ← Base64.decode? ((lines data).flatMap trimEnd)
  return { label := String.ofList frame.opening, content }

def blocks? (text : List Char) : Option (List Block) :=
  (frames text.length text).mapM Frame.block?

end ClusterCache.Text.Armor
