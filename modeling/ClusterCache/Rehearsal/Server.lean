import ClusterCache.Connection.Basic
import ClusterCache.Connection.Watch

/-!
# Scripted servers

A server that gives prepared replies, one for each request, and keeps a record of the requests. When
the replies are used up it is not reached any more.
-/

namespace ClusterCache

structure ScriptedServer where
  replies : List HttpReply
  record : List HttpRequest
deriving Repr

structure ScriptedSession where
  connection : Connection
  server : ScriptedServer
deriving Repr

namespace ScriptedServer

def exhausted : HttpReply := .failed "no response" []

def reply (request : HttpRequest) : StateM ScriptedServer HttpReply := fun server =>
  (server.replies.head?.getD exhausted, ⟨server.replies.tail, request :: server.record⟩)

end ScriptedServer

namespace ScriptedSession

def start (ns : String) : ScriptedSession := ⟨Connection.start ns, ⟨[], []⟩⟩

def prepare (replies : List HttpReply) (session : ScriptedSession) : ScriptedSession :=
  { session with server.replies := session.server.replies ++ replies }

def takeRecord (session : ScriptedSession) : ScriptedSession × List HttpRequest :=
  ({ session with server.record := [] }, session.server.record.reverse)

def perform (request : Request) (session : ScriptedSession) : ScriptedSession × Answer :=
  let ((connection, answer), server) :=
    (session.connection.perform ScriptedServer.reply request).run session.server
  (⟨connection, server⟩, answer)

def replace (resource : ApiResource) (object : Object) (session : ScriptedSession) :
    ScriptedSession × Except Error Object :=
  match session.connection.httpRequest (.replace resource object) with
  | .error failure => (session, .error (.request failure))
  | .ok request =>
      let (reply, server) := (ScriptedServer.reply request).run session.server
      ({ session with server }, Connection.readReplaced resource object reply)

/-- The first `count` items of a watch, with so many questions at most. Nothing is asked that the
items do not need. -/
def collect (collection : Collection) :
    Nat → Nat → WatchTurn → StateM ScriptedServer (List StreamItem)
  | 0, count, turn => return turn.items.take count
  | questions + 1, count, turn => do
      if count ≤ turn.items.length then return turn.items.take count
      else
        let next ← turn.question.ask ScriptedServer.reply collection
        return turn.items ++ (← collect collection questions (count - turn.items.length) next)

/-- The first items of a new watch. A question that no reply is left for yields an item, so there
are no more questions than items and replies. -/
def watch (resource : ApiResource) (ns : Option String) (count : Nat) (session : ScriptedSession) :
    ScriptedSession × List StreamItem :=
  let collection := session.connection.collection resource (ns.getD "")
  let (items, server) :=
    (collect collection (count + session.server.replies.length) count .start).run session.server
  ({ session with server }, items)

end ScriptedSession

end ClusterCache
