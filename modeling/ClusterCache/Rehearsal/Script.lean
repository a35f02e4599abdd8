import ClusterCache.Rehearsal.Clock

/-!
# Scripts

A script that has a turn goes on until it has to wait. A strand is a script with its place in time:
it may sleep, and it may be given up some time after its start.
-/

namespace ClusterCache

inductive Script (ω α : Type) where
  | done (value : α)
  /-- Changes the world at once. What follows sees the world as it was before. -/
  | act (change : ω → ω) (next : ω → Script ω α)
  /-- Waits in the world. At every turn it takes the step that is possible, if any, and goes on once
  it is ready; if it is given up, that changes the world too. -/
  | wait (step : ω → Option ω) (isReady : ω → Bool) (giveUp : ω → ω) (next : ω → Script ω α)
  | sleep (milliseconds : Nat) (next : Script ω α)

namespace Script

variable {ω α β : Type}

def andThen : Script ω α → (α → Script ω β) → Script ω β
  | done value, after => after value
  | act change next, after => act change fun world => (next world).andThen after
  | wait step isReady giveUp next, after =>
      wait step isReady giveUp fun world => (next world).andThen after
  | sleep milliseconds next, after => sleep milliseconds (next.andThen after)

instance : Monad (Script ω) where
  pure := done
  bind := andThen

def change (change : ω → ω) : Script ω Unit := act change fun _ => done ()

def read (view : ω → α) : Script ω α := act id fun world => done (view world)

def get (change : ω → ω × α) : Script ω α :=
  act (fun world => (change world).1) fun world => done (change world).2

inductive Turn (ω α : Type) where
  | finished (value : α) (world : ω)
  /-- The script has to wait; until a moment, if it sleeps. -/
  | waiting (script : Script ω α) (until? : Option Nat) (moved : Bool) (world : ω)

variable [Timed ω]

def turn : Script ω α → Bool → ω → Turn ω α
  | done value, _, world => .finished value world
  | act change next, _, world => (next world).turn true (change world)
  | wait step isReady giveUp next, moved, world =>
      let stepped := step world
      let world := stepped.getD world
      if isReady world then (next world).turn true world
      else .waiting (wait step isReady giveUp next) none (moved || stepped.isSome) world
  | sleep milliseconds next, _, world =>
      if milliseconds = 0 && Timed.hasCredit world then next.turn true (Timed.spend 1 world)
      else .waiting next (some (Timed.now world + milliseconds)) true world

def isStirred (world : ω) : Script ω α → Bool
  | wait step isReady _ _ => (step world).isSome || isReady world
  | _ => true

def abandon : Script ω α → ω → ω
  | wait _ _ giveUp _, world => giveUp world
  | _, world => world

end Script

/-! ## Strands -/

structure Strand (ω α : Type) where
  script : Script ω α
  /-- It starts so long after its first turn. -/
  delay : Nat
  /-- It is given up so long after its start. -/
  allowance : Option Nat
  /-- It sleeps until this moment. -/
  until? : Option Nat := none
  /-- It is given up at this moment. -/
  deadline : Option Nat := none
  started : Bool := false

inductive StrandState (ω α : Type) where
  | going (strand : Strand ω α)
  | finished (value : α)
  | givenUp

namespace StrandState

variable {ω α : Type}

def ofScript (script : Script ω α) (delay : Nat) (allowance : Option Nat) : StrandState ω α :=
  .going { script, delay, allowance }

def isOver : StrandState ω α → Bool
  | going _ => false
  | _ => true

def value? : StrandState ω α → Option α
  | finished value => some value
  | _ => none

def moments : StrandState ω α → List Nat
  | going strand => strand.until?.toList ++ strand.deadline.toList
  | _ => []

def hasDeadline : StrandState ω α → Bool
  | going strand => strand.deadline.isSome
  | _ => false

end StrandState

/-! ## Turns of strands -/

namespace Strand

variable {ω α : Type} [Timed ω]

def isAsleep (strand : Strand ω α) (world : ω) : Bool := strand.until?.any (Timed.now world < ·)

def isExpired (strand : Strand ω α) (world : ω) : Bool :=
  strand.deadline.any (· ≤ Timed.now world)

def isStirred (strand : Strand ω α) (world : ω) : Bool :=
  !strand.isAsleep world
    && (0 < strand.delay || strand.until?.isSome || strand.script.isStirred world)

/-- Gives the strand up if its time is over. That costs a unit. -/
def expire (strand : Strand ω α) (hadCredit moved : Bool) (world : ω) :
    StrandState ω α × ω × Bool :=
  if hadCredit && strand.isExpired world then
    (.givenUp, Timed.spend 1 (strand.script.abandon world), true)
  else (.going strand, world, moved)

/-- Lets the script go on. A script that finishes at the moment at which it would be given up has
finished. -/
def resume (strand : Strand ω α) (world : ω) : StrandState ω α × ω × Bool :=
  let hadCredit := Timed.hasCredit world
  let woke := strand.until?.isSome
  let world := if woke then Timed.spend 1 world else world
  let deadline :=
    if strand.started then strand.deadline else strand.allowance.map (Timed.now world + ·)
  match strand.script.turn woke world with
  | .finished value world => (.finished value, world, true)
  | .waiting script until? moved world =>
      { strand with script, until?, deadline, started := true }.expire hadCredit moved world

/-- Gives the strand a turn. Also returns whether it got on. -/
def turn (strand : Strand ω α) (world : ω) : StrandState ω α × ω × Bool :=
  let hasCredit := Timed.hasCredit world
  if 0 < strand.delay then
    if hasCredit then
      (.going { strand with delay := 0, until? := some (Timed.now world + strand.delay) },
        world, true)
    else (.going strand, world, false)
  else if strand.isAsleep world then strand.expire hasCredit false world
  else if strand.until?.isSome && !hasCredit then (.going strand, world, false)
  else strand.resume world

end Strand

namespace StrandState

variable {ω α : Type} [Timed ω]

def isExpired (world : ω) : StrandState ω α → Bool
  | going strand => strand.isExpired world
  | _ => false

def isStirred (world : ω) : StrandState ω α → Bool
  | going strand => strand.isStirred world
  | _ => false

def turn (state : StrandState ω α) (world : ω) : StrandState ω α × ω × Bool :=
  match state with
  | going strand => strand.turn world
  | _ => (state, world, false)

end StrandState

end ClusterCache
