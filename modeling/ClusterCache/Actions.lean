import ClusterCache.Alert
import ClusterCache.Key

/-!
# Actions

Actions are requested by path and carry their arguments in a payload. One action is at home here:
the deletion of an object, which reports its result to the user and not to whoever requested it.
-/

namespace ClusterCache

abbrev Actions (δ : Type) := Table String δ

def Actions.find {δ : Type} (actions : Actions δ) (path : String) : Except Error δ :=
  match actions.get? path with
  | some action => .ok action
  | none => .error (.actionNotFound path)

namespace Deletion

def path : String := "action.kubecache/deleteObject"

def describe (key : Key) : String := key.kind ++ " " ++ Text.quoted (key.name.getD "")

def report (now : Instant) (key : Key) : Except Error Unit → Alert
  | .ok _ => .raise now .info ("Deleted " ++ describe key) Alert.defaultLifetime
  | .error error =>
      { Alert.forError now error with
        message := "Unable to delete " ++ describe key ++ ": " ++ error.message }

/-- Deletes the object that the payload names and sends an alert about it. Only a payload that does
not name an object is an error of the action itself. -/
def handle {μ : Type → Type} [Monad μ] (now : Instant) (delete : Key → μ (Except Error Unit))
    (send : Alert → μ Unit) (payload : Payload) : μ (Except Error Unit) :=
  match Key.ofPayload payload with
  | .error error => pure (.error error)
  | .ok key => do
      let result ← delete key
      send (report now key result)
      return .ok ()

end Deletion

end ClusterCache
