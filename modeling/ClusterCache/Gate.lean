/-!
# The gate

Operations pass the gate shared; a reset and a change of connection pass it alone. The gate is fair:
who has to wait is let in by the order of arrival, and nobody overtakes one who waits. A leaving
call lets in as many of those who wait as may be inside together.
-/

namespace ClusterCache

/-- The number of a call, counted from zero in the order the calls were begun. -/
abbrev CallId := Nat

/-- Whether a call tolerates others inside the gate. -/
inductive Passage
  | shared
  | alone
deriving DecidableEq, Repr

/-- Who is inside the gate and who waits for it, in the order of arrival. -/
structure Gate where
  inside : List (CallId × Passage)
  waiting : List (CallId × Passage)
deriving DecidableEq, Repr

namespace Gate

def empty : Gate := ⟨[], []⟩

instance : Inhabited Gate := ⟨empty⟩

def admits (inside : List (CallId × Passage)) : Passage → Bool
  | .shared => inside.all fun entry => entry.2 = .shared
  | .alone => inside.isEmpty

/-- Lets in those who wait, from the first on, for as long as they may join those inside. -/
def letIn (inside : List (CallId × Passage)) : List (CallId × Passage) → Gate
  | [] => ⟨inside, []⟩
  | next :: rest =>
      if admits inside next.2 then letIn (inside ++ [next]) rest else ⟨inside, next :: rest⟩

/-- A call arrives at the gate. It waits if others wait, or if it may not join those inside. -/
def arrive (gate : Gate) (call : CallId) (passage : Passage) : Gate :=
  if gate.waiting.isEmpty && admits gate.inside passage then
    { gate with inside := gate.inside ++ [(call, passage)] }
  else { gate with waiting := gate.waiting ++ [(call, passage)] }

def leave (gate : Gate) (call : CallId) : Gate :=
  letIn (gate.inside.filter fun entry => entry.1 ≠ call)
    (gate.waiting.filter fun entry => entry.1 ≠ call)

def isInside (gate : Gate) (call : CallId) : Bool := gate.inside.any fun entry => entry.1 = call

end Gate

end ClusterCache
