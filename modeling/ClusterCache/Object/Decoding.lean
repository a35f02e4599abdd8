import ClusterCache.Json.Decoder
import ClusterCache.Object

/-!
# Decoding objects

The metadata of an object must be of the common form in all its parts; within it the last of
several fields of one name counts, and only fields that are not of the form are left out. Outside of
the metadata nothing is required: the type of an object is known if both its parts are given once,
as texts, and a type of another form is left out.
-/

namespace ClusterCache

open Json (Decoder Form FormField)

def timestampDecoder : Decoder Text.Timestamp := .word Text.Timestamp.ofText?

def ManagedFieldsEntry.decoder : Decoder ManagedFieldsEntry :=
  Form.record
    { repetition := .allowed
      fields :=
        [.kept "apiVersion" (.optional .text) fun entry apiVersion => { entry with apiVersion },
          .kept "fieldsType" (.optional .text) fun entry fieldsType => { entry with fieldsType },
          .kept "fieldsV1" (.optional .any) fun entry fieldsV1 => { entry with fieldsV1 },
          .kept "manager" (.optional .text) fun entry manager => { entry with manager },
          .kept "operation" (.optional .text) fun entry operation => { entry with operation },
          .kept "subresource" (.optional .text) fun entry subresource =>
            { entry with subresource },
          .kept "time" (.optional timestampDecoder) fun entry time => { entry with time }] }
    {} some

/-- A reference to an owner. Texts that are absent or null are empty. -/
def OwnerReference.decoder : Decoder OwnerReference :=
  Form.record
    { repetition := .allowed
      fields :=
        [.kept "apiVersion" (.optional .text) fun owner apiVersion =>
            { owner with apiVersion := apiVersion.getD "" },
          .kept "blockOwnerDeletion" (.optional .flag) fun owner blockOwnerDeletion =>
            { owner with blockOwnerDeletion },
          .kept "controller" (.optional .flag) fun owner controller => { owner with controller },
          .kept "kind" (.optional .text) fun owner kind => { owner with kind := kind.getD "" },
          .kept "name" (.optional .text) fun owner name => { owner with name := name.getD "" },
          .kept "uid" (.optional .text) fun owner uid => { owner with uid := uid.getD "" }] }
    ⟨"", none, none, "", "", ""⟩ some

namespace Metadata

def textMap : Decoder (Option Labels) := .optional (.dictionary .text)

def form : Form Metadata :=
  { repetition := .allowed
    fields :=
      [.kept "name" (.optional .text) fun metadata name => { metadata with name },
        .kept "generateName" (.optional .text) fun metadata generateName =>
          { metadata with generateName },
        .kept "namespace" (.optional .text) fun metadata ns => { metadata with ns },
        .kept "resourceVersion" (.optional .text) fun metadata resourceVersion =>
          { metadata with resourceVersion },
        .kept "labels" textMap fun metadata labels => { metadata with labels },
        .kept "annotations" textMap fun metadata annotations => { metadata with annotations },
        .kept "creationTimestamp" (.optional timestampDecoder) fun metadata creationTimestamp =>
          { metadata with creationTimestamp },
        .kept "deletionGracePeriodSeconds" (.optional .long)
          fun metadata deletionGracePeriodSeconds =>
            { metadata with deletionGracePeriodSeconds },
        .kept "deletionTimestamp" (.optional timestampDecoder) fun metadata deletionTimestamp =>
          { metadata with deletionTimestamp },
        .kept "finalizers" (.optional (.list .text)) fun metadata finalizers =>
          { metadata with finalizers },
        .kept "generation" (.optional .long) fun metadata generation =>
          { metadata with generation },
        .kept "managedFields" (.optional (.list ManagedFieldsEntry.decoder))
          fun metadata managedFields => { metadata with managedFields },
        .kept "ownerReferences" (.optional (.list OwnerReference.decoder))
          fun metadata ownerReferences => { metadata with ownerReferences },
        .kept "selfLink" (.optional .text) fun metadata selfLink => { metadata with selfLink },
        .kept "uid" (.optional .text) fun metadata uid => { metadata with uid }] }

def decoder : Decoder Metadata := form.record .empty some

end Metadata

namespace TypeMeta

/-- Goes through the fields of an object to find its type. Parts of a type are taken out of the
fields; the search ends, without a type, after a part that is no text or comes twice. -/
def search (apiVersion kind : Option String) :
    List (String × Json) → Option TypeMeta × List (String × Json)
  | [] =>
      match apiVersion, kind with
      | some apiVersion, some kind => (some { apiVersion, kind }, [])
      | _, _ => (none, [])
  | (name, value) :: rest =>
      if name = "apiVersion" then
        match apiVersion, value with
        | none, .string text => search (some text) kind rest
        | _, _ => (none, rest)
      else if name = "kind" then
        match kind, value with
        | none, .string text => search apiVersion (some text) rest
        | _, _ => (none, rest)
      else
        let (types, others) := search apiVersion kind rest
        (types, (name, value) :: others)

end TypeMeta

/-- An object as it is gathered: its metadata, and its other fields, the last one first. -/
structure ObjectParts (μ : Type) where
  metadata : Option μ
  fields : List (String × Json)

namespace ObjectParts

variable {μ : Type}

def keep (name : String) (parts : ObjectParts μ) : Decoder (ObjectParts μ) := fun depth => do
  return { parts with fields := (name, ← Decoder.any depth) :: parts.fields }

def typed (parts : ObjectParts μ) : Option TypeMeta × List (String × Json) :=
  TypeMeta.search none none parts.fields.reverse

def decoder {α : Type} (metadata : Decoder μ) (finish : ObjectParts μ → Option α) : Decoder α :=
  Form.record
    { repetition := .refused
      fields := [.kept "metadata" metadata fun parts metadata =>
        { parts with metadata := some metadata }]
      other := keep }
    ⟨none, []⟩ finish

end ObjectParts

namespace Object

def decoder : Decoder Object :=
  ObjectParts.decoder Metadata.decoder fun parts =>
    some { types := parts.typed.1, metadata := parts.metadata.getD .empty,
           fields := Dictionary.ofList parts.typed.2 }

def ofJson? (json : Json) : Option Object := decoder.ofJson? json

end Object

end ClusterCache
