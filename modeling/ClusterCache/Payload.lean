import ClusterCache.Error
import ClusterCache.Json.Text
import ClusterCache.Kind

/-!
# Payloads

The arguments of an action: loosely typed fields, read by accessors that say what is wrong with a
field that does not fit.
-/

namespace ClusterCache

structure Payload where
  fields : Dictionary Json
deriving Repr, Inhabited

namespace Payload

def empty : Payload := ⟨Dictionary.empty⟩

def insert (payload : Payload) (key : String) (value : Json) : Payload :=
  ⟨payload.fields.insert key value⟩

/-- A payload that names an action. The given fields are added last, so they may rename it. -/
def create (action : String) (fields : List (String × Json)) : Payload :=
  ⟨((empty.insert "action" (.string action)).fields).insertAll fields⟩

/-- Only an object is a payload. -/
def ofJson? (json : Json) : Option Payload :=
  json.fields?.map fun fields => ⟨Dictionary.ofList fields⟩

def toJson (payload : Payload) : Json := .ofDictionary payload.fields

def get? (payload : Payload) (key : String) : Option Json := payload.fields.get? key

/-- Payloads are equal if their fields are, up to the sign of zeros. -/
def equal (left right : Payload) : Bool := left.toJson.equal right.toJson

def missing (key : String) : Error :=
  .custom ("payload does not contain " ++ Text.quoted key)

/-! ## Accessors -/

def actionName? (payload : Payload) : Option String := (payload.get? "action").bind Json.string?

def string (payload : Payload) (key : String) : Except Error String :=
  match (payload.get? key).bind Json.string? with
  | some value => .ok value
  | none => .error (missing key)

/-- A text, empty if the field is absent or null. -/
def optionalString (payload : Payload) (key : String) : Except Error String :=
  match payload.get? key with
  | none | some .null => .ok ""
  | some (.string value) => .ok value
  | some other =>
      .error (.custom (Text.quoted key ++ " accessor error: " ++ other.compact
        ++ " is not a string"))

def textItems : List Json → Except Error (List String)
  | [] => .ok []
  | .string value :: rest => (textItems rest).map (value :: ·)
  | _ :: _ => .error (.custom "could not convert slice entry to string")

def stringSlice (payload : Payload) (key : String) : Except Error (List String) :=
  match (payload.get? key).bind Json.array? with
  | some items => textItems items
  | none => .error (missing key)

def float64 (payload : Payload) (key : String) : Except Error Binary64 :=
  match payload.get? key with
  | some (.number value) => .ok value.toBinary64
  | some (.string text) =>
      match Binary64.read text with
      | .ok value => .ok value
      | .error problem =>
          .error (.custom ("parse " ++ Text.quoted key ++ " as float: " ++ problem.message))
  | other =>
      .error (.custom ("unable to handle type for " ++ Text.quoted key ++ "; got "
        ++ Json.annotatedOption other))

/-- The whole part of a number between 0 and 65535. -/
def uint16 (payload : Payload) (key : String) : Except Error Nat :=
  match (payload.get? key).bind Json.number? with
  | none => .error (missing key)
  | some number =>
      let value := number.toBinary64
      if value.isWithin 65535 then .ok value.truncate
      else .error (.custom ("value " ++ value.plainText ++ " is not a valid uint16"))

def groupVersionKind (payload : Payload) : Except Error GroupVersionKind := do
  let group ← payload.string "group"
  let version ← payload.string "version"
  let kind ← payload.string "kind"
  return { group, version, kind }

end Payload

end ClusterCache
