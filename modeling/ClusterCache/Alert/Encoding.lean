import ClusterCache.Alert
import ClusterCache.Json

/-!
# Alerts as JSON

An alert is an object with its severity under `type`, its `message` and, unless it never expires,
its `expiration`. Reading accepts further fields, and an array of the three parts in that order.
-/

namespace ClusterCache

/-- A severity is written as its text, or as an object with that name and nothing in it. -/
def Severity.ofJson? : Json → Option Severity
  | .string text => Severity.ofText? text
  | .object [(text, .null)] => Severity.ofText? text
  | _ => none

namespace Instant

def lastSecond : Nat := Nat.pow 2 63 - 1

/-- The instant given by seconds and nanoseconds, of which whole seconds are carried over. -/
def ofCounts? (seconds nanoseconds : Nat) : Option Instant :=
  let carried := seconds + nanoseconds / nanosecondsPerSecond
  if seconds < Nat.pow 2 64 && nanoseconds < Nat.pow 2 32 && carried ≤ lastSecond then
    some ⟨carried, nanoseconds % nanosecondsPerSecond⟩
  else none

def toJson (instant : Instant) : Json :=
  .ofFields [("secs_since_epoch", .number (.integer instant.seconds)),
    ("nanos_since_epoch", .number (.integer instant.nanoseconds))]

/-- Reads an instant: an object with exactly the two counts, or an array of both. -/
def ofJson? : Json → Option Instant
  | .array [seconds, nanoseconds] => do ofCounts? (← seconds.natural?) (← nanoseconds.natural?)
  | .object fields =>
      if fields.length = 2 then do
        let seconds ← (Json.object fields).field? "secs_since_epoch"
        let nanoseconds ← (Json.object fields).field? "nanos_since_epoch"
        ofCounts? (← seconds.natural?) (← nanoseconds.natural?)
      else none
  | _ => none

end Instant

namespace Alert

def toJson (alert : Alert) : Json :=
  .ofFields ([("type", .string alert.severity.text), ("message", .string alert.message)]
    ++ (alert.expiration.map fun instant => ("expiration", instant.toJson)).toList)

/-- The alert made of three JSON values; a null expiration is none. -/
def ofParts? (severity message expiration : Json) : Option Alert := do
  let severity ← Severity.ofJson? severity
  let message ← message.string?
  let expiration ←
    match expiration with
    | .null => some none
    | value => (Instant.ofJson? value).map some
  return { severity, message, expiration }

def ofJson? : Json → Option Alert
  | .array [severity, message, expiration] => ofParts? severity message expiration
  | .object fields => do
      let severity ← (Json.object fields).field? "type"
      let message ← (Json.object fields).field? "message"
      ofParts? severity message (((Json.object fields).field? "expiration").getD .null)
  | _ => none

end Alert

end ClusterCache
