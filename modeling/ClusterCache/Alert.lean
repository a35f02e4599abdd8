import ClusterCache.Error

/-!
# Alerts

Short messages to the user. How severe the alert about an error is follows from its category: a
denial is only information, what may pass by itself is a warning, all else is an error.
-/

namespace ClusterCache

inductive Severity
  | error
  | warning
  | info
deriving DecidableEq, Repr

def Severity.text : Severity → String
  | .error => "ERROR"
  | .warning => "WARNING"
  | .info => "INFO"

def Severity.ofText? : String → Option Severity
  | "ERROR" => some .error
  | "WARNING" => some .warning
  | "INFO" => some .info
  | _ => none

/-- A point in time, counted from the epoch; fewer than a milliard nanoseconds. -/
structure Instant where
  seconds : Nat
  nanoseconds : Nat
deriving DecidableEq, Repr, Inhabited

namespace Instant

def nanosecondsPerSecond : Nat := 1000000000

def after (start : Instant) (milliseconds : Nat) : Instant :=
  let total := start.seconds * nanosecondsPerSecond + start.nanoseconds + milliseconds * 1000000
  ⟨total / nanosecondsPerSecond, total % nanosecondsPerSecond⟩

/-- The milliseconds between two instants, rounded down; nothing if the first is later. -/
def millisecondsUntil (start finish : Instant) : Nat :=
  ((finish.seconds * nanosecondsPerSecond + finish.nanoseconds)
    - (start.seconds * nanosecondsPerSecond + start.nanoseconds)) / 1000000

end Instant

structure Alert where
  severity : Severity
  message : String
  expiration : Option Instant
deriving DecidableEq, Repr

namespace Alert

/-- How long an alert stays by default, in milliseconds. -/
def defaultLifetime : Nat := 10000

/-- An alert raised now. One with no lifetime never expires. -/
def raise (now : Instant) (severity : Severity) (message : String) (lifetime : Nat) : Alert :=
  ⟨severity, message, if lifetime = 0 then none else some (now.after lifetime)⟩

def severityOf (error : Error) : Severity :=
  match error.category with
  | .accessDenied => .info
  | .conflict | .fetch | .transport => .warning
  | _ => .error

def forError (now : Instant) (error : Error) : Alert :=
  raise now (severityOf error) error.message defaultLifetime

end Alert

end ClusterCache
