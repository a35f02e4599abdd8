import ClusterCache.Error
import ClusterCache.Object.Decoding
import ClusterCache.Text.Base64

/-!
# Typed reading

An object from the cache can be read as a value of a type of its own. An object that is not of that
form is an error, and so is a failed look-up, put into the context of the reading.
-/

namespace ClusterCache

open Json (Decoder Form FormField)

def readAs {α : Type} (decode : Object → Except Error α)
    (result : Except Error (Option Object)) : Except Error (Option α) :=
  match result with
  | .error error => .error (.context "get object from object store" error)
  | .ok none => .ok none
  | .ok (some object) => (decode object).map some

structure ConfigMap where
  metadata : Metadata
  binaryData : Option (Dictionary (List UInt8))
  data : Option Labels
  immutable : Option Bool
deriving Repr

namespace ConfigMap

def ns (map : ConfigMap) : Option String := map.metadata.ns

def name (map : ConfigMap) : Option String := map.metadata.name

/-- Bytes in base64; null stands for none. -/
def bytes : Decoder (List UInt8) := fun depth => do
  match ← (Decoder.optional .text) depth with
  | some text =>
      match Text.Base64.decode? text.toList with
      | some found => return found
      | none => throw .malformed
  | none => return []

structure Parts where
  map : ConfigMap
  hasVersion : Bool
  hasKind : Bool

def Parts.map? (parts : Parts) : Option ConfigMap :=
  if parts.hasVersion && parts.hasKind then some parts.map else none

/-- A field with one text, of which it is kept that it was given. -/
def given (name text : String) (keep : Parts → Parts) : FormField Parts :=
  .kept name (.word fun found => if found = text then some () else none) fun parts _ => keep parts

def decoder : Decoder ConfigMap :=
  Form.record
    { repetition := .allowed
      fields :=
        [given "apiVersion" "v1" fun parts => { parts with hasVersion := true },
          given "kind" "ConfigMap" fun parts => { parts with hasKind := true },
          .kept "binaryData" (.optional (.dictionary bytes)) fun parts binaryData =>
            { parts with map := { parts.map with binaryData } },
          .kept "data" (.optional (.dictionary .text)) fun parts data =>
            { parts with map := { parts.map with data } },
          .kept "immutable" (.optional .flag) fun parts immutable =>
            { parts with map := { parts.map with immutable } },
          .kept "metadata" (.optional Metadata.decoder) fun parts metadata =>
            { parts with map := { parts.map with metadata := metadata.getD Metadata.empty } }] }
    ⟨⟨Metadata.empty, none, none, none⟩, false, false⟩ Parts.map?

def ofObject (object : Object) : Except Error ConfigMap :=
  match decoder.ofJson? object.toJson with
  | some map => .ok map
  | none => .error .json

end ConfigMap

end ClusterCache
