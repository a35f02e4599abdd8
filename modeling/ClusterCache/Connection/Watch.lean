import ClusterCache.Connection.Address
import ClusterCache.Connection.Http
import ClusterCache.Object.Decoding
import ClusterCache.Replica

/-!
# Watches

A watch yields the items of a stream by asking a server again and again. It first asks for a full
list, page by page, and then for the changes since the version of the list, one on each line of the
reply. When the lines end it asks for the changes since the last version that it has seen. A failure
is an item of its own; the watch goes on after it, with a new full list if it can no longer tell
which changes it has missed.
-/

namespace ClusterCache

open Json (Decoder Form)

/-! ## Replies -/

structure Page where
  objects : List Object
  version : Option String
  /-- What names the next page, if there is one. -/
  token : Option String
deriving Repr

inductive WatchLine
  | applied (object : Object)
  | deleted (object : Object)
  | bookmark (version : String)
  | refused (code : Nat)
  | incomplete
  | malformed
deriving Repr

namespace Page

structure ListMetadata where
  version : Option String
  token : Option String

/-- The metadata of a list; the last of several fields of one name counts. -/
def listMetadata : Decoder ListMetadata :=
  Form.record
    { repetition := .allowed
      fields :=
        [.kept "resourceVersion" (.optional .text) fun found version => { found with version },
          .kept "continue" (.optional .text) fun found token => { found with token },
          .note "selfLink", .checked "remainingItemCount" (.optional .long)] }
    ⟨none, none⟩ some

structure Parts where
  metadata : ListMetadata
  objects : Option (List Object)

/-- The page that the parts make up. The list of objects is required; empty texts count as
absent. -/
def Parts.page? (parts : Parts) : Option Page :=
  parts.objects.map fun objects =>
    { objects, version := parts.metadata.version.filter (!·.isEmpty),
      token := parts.metadata.token.filter (!·.isEmpty) }

def unkept {σ : Type} (_ : String) (state : σ) : Decoder σ := fun depth => do
  let _ ← Decoder.any depth
  return state

/-- A page of a list. The list of objects may be null. -/
def decoder : Decoder Page :=
  Form.record
    { repetition := .refused
      fields :=
        [.kept "metadata" listMetadata fun parts metadata => { parts with metadata },
          .kept "items" (.optional (.list Object.decoder)) fun parts objects =>
            { parts with objects := some (objects.getD []) }]
      other := unkept }
    ⟨⟨none, none⟩, none⟩ Parts.page?

end Page

namespace Bookmark

/-- The metadata of a bookmark, which name a version: an object, or an array that starts with the
version. -/
def version : Decoder String :=
  Form.recordOrRow
    { repetition := .refused
      fields := [.kept "resourceVersion" .text fun _ version => some version,
        .checked "annotations" (.dictionary .text)] }
    none id

def decoder : Decoder String :=
  ObjectParts.decoder version fun parts => parts.typed.1.bind fun _ => parts.metadata

end Bookmark

inductive LineType
  | added
  | modified
  | deleted
  | bookmark
  | error
deriving DecidableEq, Repr

namespace LineType

def ofText? : String → Option LineType
  | "ADDED" => some added
  | "MODIFIED" => some modified
  | "DELETED" => some deleted
  | "BOOKMARK" => some bookmark
  | "ERROR" => some error
  | _ => none

def content : LineType → Decoder WatchLine
  | added | modified => fun depth => return .applied (← Object.decoder depth)
  | deleted => fun depth => return .deleted (← Object.decoder depth)
  | bookmark => fun depth => return .bookmark (← Bookmark.decoder depth)
  | error => fun depth => return .refused (← Status.decoder depth).code

end LineType

namespace WatchLine

/-- A line as it is gathered. What it is about can be understood once the type is known; until then
its spelling is kept. -/
structure Parts where
  type : Option LineType
  content : Option WatchLine
  spelling : List Char

namespace Parts

def start : Parts := ⟨none, none, []⟩

def takeType (parts : Parts) : Decoder Parts := fun depth => do
  let type ← Decoder.choice LineType.ofText? depth
  if parts.spelling.isEmpty then return { parts with type := some type }
  else
    let content ← type.content.decode parts.spelling
    return { parts with type := some type, content := some content }

def takeContent (parts : Parts) : Decoder Parts := fun depth => do
  match parts.type with
  | some type => return { parts with content := some (← type.content depth) }
  | none => return { parts with spelling := ← Decoder.spelling depth }

end Parts

def decoder : Decoder WatchLine :=
  Form.recordOrRow
    { repetition := .refused
      fields := [⟨"type", Parts.takeType⟩, ⟨"object", Parts.takeContent⟩] }
    Parts.start Parts.content

/-- Reads a line. A line that breaks off says nothing. -/
def ofText (line : String) : WatchLine :=
  match decoder.decode line.toList with
  | .ok found => found
  | .error .unfinished => incomplete
  | .error .malformed => malformed

def trimReturn (line : List Char) : List Char :=
  if line.getLast? = some '\r' then line.dropLast else line

def linesOf (body : String) : List String :=
  (Text.piecesList '\n' body.toList).map fun line => String.ofList (trimReturn line)

end WatchLine

/-! ## Questions -/

/-- What a watch asks for next; how far it has come is in what it asks. -/
inductive WatchQuestion
  | page (token : Option String)
  | changes (version : String)
deriving DecidableEq, Repr

structure WatchTurn where
  items : List StreamItem
  question : WatchQuestion
deriving Repr

namespace WatchTurn

/-- A full list starts. So does every watch. -/
def start : WatchTurn := ⟨[.event .init], .page none⟩

def after (item : StreamItem) (turn : WatchTurn) : WatchTurn :=
  { turn with items := item :: turn.items }

def goneCode : Nat := 410

/-- Hands out a change and goes on from its version. An object without a version leaves nothing to
go on from. -/
def ofChange (object : Object) (event : WatchEvent) (next : String → WatchTurn) : WatchTurn :=
  match object.resourceVersion.filter (!·.isEmpty) with
  | some version => (next version).after (.event event)
  | none => start.after .failure

/-- Hands out what lines of changes since a version tell. After a list has become necessary no
further line counts. -/
def ofLines (version : String) : List String → WatchTurn
  | [] => ⟨[], .changes version⟩
  | line :: rest =>
      match WatchLine.ofText line with
      | .applied object => ofChange object (.apply object) fun later => ofLines later rest
      | .deleted object => ofChange object (.delete object) fun later => ofLines later rest
      | .bookmark later => ofLines later rest
      | .refused code => (if code = goneCode then start else ofLines version rest).after .failure
      | .incomplete => ofLines version rest
      | .malformed => (ofLines version rest).after .failure

/-- Hands out the objects of a page. A page that names neither a version nor a next page is a
failure. -/
def ofPage (page : Page) : WatchTurn :=
  let objects := page.objects.map fun object => StreamItem.event (.initApply object)
  match page.token, page.version with
  | some token, _ => ⟨objects, .page (some token)⟩
  | none, some version => ⟨objects ++ [.event .initDone], .changes version⟩
  | none, none => start.after .failure

end WatchTurn

namespace WatchQuestion

def request (collection : Collection) : WatchQuestion → Except RequestFailure HttpRequest
  | page token => HttpRequest.build .get (collection.listTarget token) none
  | changes version => HttpRequest.build .get (collection.changesTarget version) none

/-- Takes in the reply to a question. The status of a reply with changes does not count, only its
lines do. -/
def receive (question : WatchQuestion) (reply : HttpReply) : WatchTurn :=
  match question with
  | page _ =>
      match reply.decoded Page.decoder with
      | .ok found => .ofPage found
      | .error _ => WatchTurn.start.after .failure
  | changes version =>
      match reply with
      | .answered _ body => .ofLines version (WatchLine.linesOf body)
      | .failed .. => ⟨[.failure], changes version⟩

/-- Asks a question by means of `send`. A request that cannot be built counts as one that failed. -/
def ask {μ : Type → Type} [Monad μ] (send : HttpRequest → μ HttpReply) (collection : Collection)
    (question : WatchQuestion) : μ WatchTurn :=
  match question.request collection with
  | .ok request => do return question.receive (← send request)
  | .error failure => pure (question.receive (.failed failure.message []))

end WatchQuestion

end ClusterCache
