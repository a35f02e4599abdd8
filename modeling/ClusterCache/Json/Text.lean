import ClusterCache.Binary64.Text
import ClusterCache.Json
import ClusterCache.Text.Quoted

/-!
# JSON as text

Two texts of a JSON value: the compact one, which is JSON without any white space, and the
annotated one for diagnostics, which names the kind of every value.
-/

namespace ClusterCache

def Number.text : Number → String
  | .integer value => toString value
  | .double value => value.mixedText Binary64.dataFormat

namespace Json

/-! ## Compact text -/

/-- How one character is written in a JSON string. Control characters without a letter of their own
are written by number, with four digits. -/
def escapedChar (c : Char) : List Char :=
  if c = '"' then ['\\', '"']
  else if c = '\\' then ['\\', '\\']
  else if c = '\n' then ['\\', 'n']
  else if c = '\r' then ['\\', 'r']
  else if c = '\t' then ['\\', 't']
  else if c.toNat = 8 then ['\\', 'b']
  else if c.toNat = 12 then ['\\', 'f']
  else if c.toNat < 0x20 then
    let digits := Nat.toDigits 16 c.toNat
    ['\\', 'u'] ++ List.replicate (4 - digits.length) '0' ++ digits
  else [c]

def stringText (text : String) : String :=
  String.ofList ('"' :: (text.toList.flatMap escapedChar ++ ['"']))

mutual

def compact : Json → String
  | .null => "null"
  | .bool true => "true"
  | .bool false => "false"
  | .number value => value.text
  | .string value => stringText value
  | .array items => "[" ++ ",".intercalate (compactItems items) ++ "]"
  | .object fields => "\x7b" ++ ",".intercalate (compactFields fields) ++ "\x7d"

def compactItems : List Json → List String
  | [] => []
  | item :: rest => compact item :: compactItems rest

def compactFields : List (String × Json) → List String
  | [] => []
  | (name, value) :: rest => (stringText name ++ ":" ++ compact value) :: compactFields rest

end

/-! ## Annotated text -/

mutual

/-- The value with the kind of each part named, strings quoted. -/
def annotated : Json → String
  | .null => "Null"
  | .bool value => "Bool(" ++ (if value then "true" else "false") ++ ")"
  | .number value => "Number(" ++ value.text ++ ")"
  | .string value => "String(" ++ Text.quoted value ++ ")"
  | .array items => "Array [" ++ ", ".intercalate (annotatedItems items) ++ "]"
  | .object fields => "Object \x7b" ++ ", ".intercalate (annotatedFields fields) ++ "\x7d"

def annotatedItems : List Json → List String
  | [] => []
  | item :: rest => annotated item :: annotatedItems rest

def annotatedFields : List (String × Json) → List String
  | [] => []
  | (name, value) :: rest =>
      (Text.quoted name ++ ": " ++ annotated value) :: annotatedFields rest

end

def annotatedOption : Option Json → String
  | none => "None"
  | some value => "Some(" ++ annotated value ++ ")"

end Json

end ClusterCache
