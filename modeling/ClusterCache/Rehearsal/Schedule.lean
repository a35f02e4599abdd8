import ClusterCache.Rehearsal.Script

/-!
# Schedules

Strands take turns on one thread, and so do the jobs of the world. The strands have their turns
first; then a number of jobs run, in the order in which they became ready, before the strands have
their turns again. Time jumps to the next moment at which something is due as soon as nothing can
run.
-/

namespace ClusterCache

inductive Rota
  /-- Every strand, in order. -/
  | everyone
  /-- Every strand; each time another one is the first. -/
  | revolving
  /-- Those that can get on, in the order in which they came to be able to; of those that came to it
  together, the one that waited longest is the first. -/
  | onDemand
deriving DecidableEq, Repr

structure Machinery (ω κ : Type) where
  ready : ω → List κ
  run : κ → ω → ω
  due : ω → List Nat

/-- A wait of a strand: for whatever its script needs, or for the end of its time. -/
structure Wait where
  strand : Nat
  forEnd : Bool
deriving DecidableEq, Repr

structure Play (ω κ α : Type) where
  rota : Rota
  strands : List (StrandState ω α)
  world : ω
  queue : List κ
  /-- The jobs that did as much as one run allows and are not done, the latest first. -/
  tired : List κ
  woken : List Nat
  /-- The strands that were short of credit, the latest first. -/
  short : List Nat
  /-- The waits of the strands, in the order in which they began. -/
  waits : List Wait
  served : Nat

namespace Play

variable {ω κ α : Type} [Timed ω] [DecidableEq κ]

def start (rota : Rota) (strands : List (StrandState ω α)) (queue : List κ) (world : ω) :
    Play ω κ α where
  rota
  strands
  world
  queue
  tired := []
  woken := List.range strands.length
  short := []
  waits := (List.range strands.length).map (⟨·, false⟩)
  served := 0

def isEnded (play : Play ω κ α) (wait : Wait) : Bool :=
  let world := Timed.refresh play.world
  play.strands[wait.strand]?.any fun state =>
    if wait.forEnd then state.isExpired world else state.isStirred world

def isStirred (play : Play ω κ α) : Bool :=
  match play.rota with
  | .onDemand => !play.woken.isEmpty
  | _ => play.waits.any play.isEnded

def isOver (play : Play ω κ α) : Bool := play.strands.all StrandState.isOver

/-- Notices who has become ready: jobs are queued, and strands are woken if they wait for that. -/
def notice (machinery : Machinery ω κ) (play : Play ω κ α) : Play ω κ α :=
  { play with
    queue :=
      play.queue ++ (machinery.ready play.world).filter fun job =>
        !play.queue.contains job && !play.tired.contains job
    woken :=
      if play.rota = .onDemand then
        (play.woken ++ ((play.waits.filter play.isEnded).map Wait.strand).filter fun strand =>
          !play.woken.contains strand && !play.short.contains strand).eraseDups
      else play.woken }

/-! ## Turns of strands -/

/-- The waits after a strand got on: it waits anew, and if its time has begun to run, for its
end. -/
def renewWaits (waits : List Wait) (strand : Nat) (hasDeadline : Bool) : List Wait :=
  let waits := waits.erase ⟨strand, false⟩ ++ [⟨strand, false⟩]
  if hasDeadline && !waits.contains ⟨strand, true⟩ then waits ++ [⟨strand, true⟩] else waits

def giveTurn (play : Play ω κ α) (strand : Nat) : Play ω κ α :=
  match play.strands[strand]? with
  | none => play
  | some state =>
      let (state, world, moved) := state.turn play.world
      let waits :=
        if moved then renewWaits play.waits strand state.hasDeadline else play.waits
      let play := { play with strands := play.strands.set strand state, world, waits }
      if play.isEnded ⟨strand, false⟩ || play.isEnded ⟨strand, true⟩ then
        { play with short := strand :: play.short }
      else play

def giveTurns (machinery : Machinery ω κ) : Nat → Play ω κ α → Play ω κ α
  | 0, play => play
  | turns + 1, play =>
      match play.woken with
      | [] => play
      | strand :: woken =>
          giveTurns machinery turns ((giveTurn { play with woken } strand).notice machinery)

/-- No play gives more turns to its strands, and none has more rounds, unless it is stuck. -/
def limit : Nat := 100000

def serve (machinery : Machinery ω κ) (play : Play ω κ α) : Play ω κ α :=
  let all := List.range play.strands.length
  let woken :=
    match play.rota with
    | .everyone => all
    | .revolving => all.rotateLeft play.served
    | .onDemand => play.woken
  giveTurns machinery limit { play with woken, served := play.served + 1 }

/-! ## Jobs -/

/-- So many jobs run in a row before the strands have their turns again. -/
def jobsInARow : Nat := 61

def runJobs (machinery : Machinery ω κ) : Nat → Play ω κ α → Play ω κ α
  | 0, play => play
  | count + 1, play =>
      match play.queue with
      | [] => play
      | job :: queue =>
          let world := machinery.run job play.world
          let tired :=
            if (machinery.ready world).contains job then job :: play.tired else play.tired
          runJobs machinery count (notice machinery { play with queue, tired, world })

def relieve (play : Play ω κ α) : Play ω κ α :=
  { play with
    world := Timed.refresh play.world
    queue := play.queue ++ play.tired
    tired := []
    woken := if play.rota = .onDemand then play.woken ++ play.short else play.woken
    short := [] }

/-! ## Playing -/

def nextMoment? (machinery : Machinery ω κ) (play : Play ω κ α) : Option Nat :=
  ((play.strands.flatMap StrandState.moments ++ machinery.due play.world).filter
    (Timed.now play.world < ·)).min?

def proceed (machinery : Machinery ω κ) : Nat → Play ω κ α → Play ω κ α
  | 0, play => play
  | rounds + 1, play =>
      if play.isOver then play
      else
        let play := (runJobs machinery jobsInARow play).relieve
        if play.isStirred then proceed machinery rounds (play.serve machinery)
        else if !play.queue.isEmpty then proceed machinery rounds play
        else
          match play.nextMoment? machinery with
          | none => play
          | some moment =>
              let play := notice machinery { play with world := Timed.jump moment play.world }
              proceed machinery rounds (if play.isStirred then play.serve machinery else play)

def toEnd (machinery : Machinery ω κ) (play : Play ω κ α) : Play ω κ α :=
  proceed machinery limit ((play.notice machinery).serve machinery)

def values (play : Play ω κ α) : List (Option α) := play.strands.map StrandState.value?

end Play

namespace Machinery

variable {ω κ α : Type} [Timed ω] [DecidableEq κ]

def play (machinery : Machinery ω κ) (rota : Rota) (strands : List (StrandState ω α))
    (queue : List κ) (world : ω) : List (Option α) × List κ × ω :=
  let played := (Play.start rota strands queue world).toEnd machinery
  (played.values, played.queue, played.world)

/-- Lets everything run that can, while a millisecond passes. -/
def settle (machinery : Machinery ω κ) (queue : List κ) (world : ω) : List κ × ω :=
  (machinery.play .everyone
    [StrandState.ofScript (.sleep 1 (.done ())) 0 none] queue world).2

end Machinery

end ClusterCache
