import ClusterCache.CommandLine.Arguments
import ClusterCache.CommandLine.Listing
import ClusterCache.CommandLine.Report
import ClusterCache.CommandLine.Selector
import ClusterCache.Connection.Basic
import ClusterCache.Connection.Kubeconfig
import ClusterCache.Connection.Watch
import ClusterCache.Store.System

/-!
# Sessions of the command

A command lists the objects of one kind through a store on a connection of its own. It waits for the
first list, prints the objects, and then, if it is told to watch, prints every change. How requests
are sent and lines are printed is up to its host.
-/

namespace ClusterCache.CommandLine

/-- What a command needs from outside. -/
structure Host (μ : Type → Type) where
  send : HttpRequest → μ HttpReply
  print : String → μ Unit
  warn : String → μ Unit

structure Session where
  connection : Connection
  system : System
  question : WatchQuestion

inductive Ending
  | exits (code : Nat)
  | follows (session : Session)

variable {μ : Type → Type} [Monad μ]

namespace Session

def start (target : ConnectionTarget) (arguments : Arguments) : Session where
  connection := Connection.start target.ns
  system := System.start { StoreConfig.standard with syncTimeout := arguments.syncTimeout } 0
  question := WatchTurn.start.question

/-! ## Operations -/

/-- Lets a call go on for as long as it asks the cluster, so many times at most. -/
def converse (host : Host μ) (call : CallId) : Nat → Session → μ Session
  | 0, session => pure session
  | count + 1, session =>
      match session.system.stage? call with
      | some (.asking _ request _) => do
          let (connection, answer) ← session.connection.perform host.send request
          converse host call count
            { session with connection, system := session.system.apply (.answer call answer) }
      | _ => pure session

/-- No operation of a command asks the cluster more often: it maps a kind, asks for access and maps
the kind again. -/
def questionLimit : Nat := 3

def perform (host : Host μ) (operation : Operation) (session : Session) :
    μ (Session × Except Error Outcome) := do
  let call := session.system.calls.length
  let session ← converse host call questionLimit
    { session with system := session.system.apply (.begin operation) }
  return (session, ((session.system.stage? call).bind Stage.result?).getD (.ok .done))

def list (host : Host μ) (key : Key) (session : Session) :
    μ (Session × Except Error (List Object × Bool)) := do
  let (session, result) ← session.perform host (.list key)
  return (session, result.map fun outcome =>
    match outcome with
    | .listed objects loading => (objects, loading)
    | _ => ([], false))

/-! ## The watch behind the list -/

/-- The informer that serves the command. It uses only one kind. -/
def informer? (session : Session) : Option InformerId :=
  session.system.store.informers.live.head?.map Prod.snd

def deliver (items : List StreamItem) (session : Session) : Session :=
  match session.informer? with
  | none => session
  | some informer =>
      let taken := items.flatMap fun item => [Move.send informer item, .turn informer]
      let woken := session.system.store.waiters.map fun waiter => Move.wake waiter.id
      { session with system := session.system.run (taken ++ woken) }

def advance (host : Host μ) (session : Session) : μ Session :=
  match session.informer? with
  | none => pure session
  | some informer => do
      let store := session.system.store
      let collection := session.connection.collection (store.informers.informer informer).resource
        (store.config.ns.getD "")
      let turn ← session.question.ask host.send collection
      return { session with question := turn.question }.deliver turn.items

def verdicts (session : Session) : List (ResourceType × Bool) :=
  let informers := session.system.store.informers
  informers.live.map fun (type, id) => (type, (informers.informer id).replica.synced)

def awaitSync (host : Host μ) : Nat → Session → μ Session
  | 0, session => pure session
  | count + 1, session =>
      if session.verdicts.all Prod.snd then pure session
      else do awaitSync host count (← session.advance host)

def questionsPerSecond : Nat := 100

def lateLine (type : ResourceType) (seconds : Nat) : String :=
  type.text ++ " did not sync within " ++ toString seconds ++ "s"

def load (host : Host μ) (session : Session) : μ Session := do
  let seconds := session.system.store.config.syncTimeout
  let session ← (session.deliver WatchTurn.start.items).awaitSync host
    (seconds * questionsPerSecond)
  ((session.verdicts.filter fun verdict => !verdict.2).map fun verdict =>
    lateLine verdict.1 seconds).forM host.warn
  return session

/-! ## Following -/

def printChanges (host : Host μ) (session : Session) : μ Session := do
  let store := session.system.store
  let lines := store.journal.reverse.filterMap fun entry =>
    match entry with
    | .told _ change => some (describeChange change)
    | _ => none
  lines.forM host.print
  return { session with system := session.system.modify ({ · with journal := [] }) }

def follow (host : Host μ) (session : Session) : μ Session := do
  printChanges host (← session.advance host)

/-! ## The command -/

def fail (host : Host μ) (error : Error) : μ Ending := do
  (errorLines error).forM host.warn
  return .exits 1

def carryOut (host : Host μ) (key : Key) (watch : Bool) (session : Session) : μ Ending := do
  let (session, listed) ← session.list host key
  match listed with
  | .error error => fail host error
  | .ok (_, loading) => do
      let session ← if loading then session.load host else pure session
      let (session, listed) ← session.list host key
      match listed with
      | .error error => fail host error
      | .ok (objects, _) => do
          (objects.map describe).forM host.print
          if watch then
            let (session, watched) ←
              session.perform host (.watch key ⟨"", []⟩ ⟨"", "", ""⟩)
            match watched with
            | .error error => fail host error
            | .ok _ => return .follows (← printChanges host session)
          else
            let _ ← session.perform host .reset
            return .exits 0

end Session

def Arguments.key (arguments : Arguments) : Except String Key := do
  let key := Key.ofScope arguments.ns arguments.apiVersion arguments.kind
  let key := (arguments.name.map key.withName).getD key
  match arguments.selector with
  | none => return key
  | some selector => return key.withSelector (← readSelector selector)

def run (host : Host μ) (kubeconfig : String) (words : List String) : μ Ending :=
  match readArguments words with
  | .error problem => do
      if problem.exitCode = 0 then host.print problem.message else host.warn problem.message
      return .exits problem.exitCode
  | .ok arguments =>
      match Kubeconfig.connect kubeconfig arguments.context with
      | .error error => Session.fail host error
      | .ok target =>
          match arguments.key with
          | .error segment => do
              (failureLines (selectorProblem segment) []).forM host.warn
              return .exits 1
          | .ok key => (Session.start target arguments).carryOut host key arguments.watch

end ClusterCache.CommandLine
