import ClusterCache.Change

/-!
# Logs

The changes that a full list brings have no order among themselves. A log is therefore arranged
before it is shown: every run of additions and replacements is put into the order of the objects,
and so is every run of removals. Lines that are not about changes stay where they are and end a run.
-/

namespace ClusterCache.Log

variable {ε : Type}

/-- A text that is absent comes before one that is present. -/
def textLe : Option String → Option String → Bool
  | none, _ => true
  | some _, none => false
  | some left, some right => left ≤ right

def changeLe (left right : Change) : Bool :=
  let leftData := left.object.metadata
  let rightData := right.object.metadata
  if leftData.ns ≠ rightData.ns then textLe leftData.ns rightData.ns
  else textLe leftData.name rightData.name

/-- What distinguishes runs: nothing for lines that are not about changes, else whether the change
is a removal. -/
def runOf (change? : ε → Option Change) (line : ε) : Option Bool :=
  (change? line).map fun change =>
    match change with
    | .deleted _ => true
    | _ => false

def arrangeRun (change? : ε → Option Change) (run : List ε) : List ε :=
  run.mergeSort fun left right =>
    match change? left, change? right with
    | some left, some right => changeLe left right
    | _, _ => true

def arrange (change? : ε → Option Change) (lines : List ε) : List ε :=
  (lines.splitBy fun left right => runOf change? left == runOf change? right).flatMap
    (arrangeRun change?)

end ClusterCache.Log
