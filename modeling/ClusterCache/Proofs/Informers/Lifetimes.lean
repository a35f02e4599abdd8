import ClusterCache.Proofs.Informers.Ownership

/-!
# Lifetimes of watch loops

The informers are asked for, stopped by type, stopped all together and shut down in any order. Main
statement: after every sequence of commands a loop that is still live is the current one of its
type and runs under the token on record, so that no type has two live loops; who was stopped stays
stopped; and after a shutdown nobody is live, not even those started later.
-/

namespace ClusterCache.Informers

variable {η : Type}

/-! ## Commands -/

inductive Command
  | obtain (resource : ApiResource)
  | stop (type : ResourceType)
  | stopAll
  | changeClient (client : ClientId)
  | shutdown

def obey (informers : Informers η) : Command → Informers η
  | .obtain resource => (informers.obtain resource).1
  | .stop type => (informers.stop type).1
  | .stopAll => informers.stopAll.1
  | .changeClient client => informers.changeClient client
  | .shutdown => informers.shutdown

def run (informers : Informers η) (commands : List Command) : Informers η :=
  commands.foldl obey informers

theorem run_append (informers : Informers η) (first second : List Command) :
    informers.run (first ++ second) = (informers.run first).run second :=
  List.foldl_append

theorem Owned.obey {informers : Informers η} (owned : informers.Owned) (command : Command) :
    (informers.obey command).Owned := by
  cases command with
  | obtain resource => exact owned.obtain resource
  | stop type => exact owned.stop type
  | stopAll => exact owned.stopAll
  | changeClient client => exact owned.of_steady (steady_changeClient informers client)
  | shutdown => exact owned.shutdown

theorem Owned.run {informers : Informers η} (owned : informers.Owned) (commands : List Command) :
    (informers.run commands).Owned := by
  induction commands generalizing informers with
  | nil => exact owned
  | cons command rest inductionHypothesis => exact inductionHypothesis (owned.obey command)

theorem continues_obey (informers : Informers η) (command : Command) :
    informers.Continues (informers.obey command) := by
  cases command with
  | obtain resource => exact continues_obtain informers resource
  | stop type => exact continues_stop informers type
  | stopAll => exact continues_stopAll informers
  | changeClient client => exact continues_changeClient informers client
  | shutdown => exact continues_shutdown informers

theorem persists_obey (informers : Informers η) (command : Command) :
    informers.Persists (informers.obey command) := (continues_obey informers command).toPersists

theorem persists_run (informers : Informers η) (commands : List Command) :
    informers.Persists (informers.run commands) := by
  induction commands generalizing informers with
  | nil => exact Persists.refl informers
  | cons command rest inductionHypothesis =>
      exact (persists_obey informers command).trans (inductionHypothesis _)

/-! ## When the registry is closed -/

theorem closed_obtain (informers : Informers η) (resource : ApiResource) :
    (informers.obtain resource).1.tokens.closed = informers.tokens.closed := by
  unfold obtain
  split
  · rfl
  · exact Tokens.closed_renew informers.tokens _

/-- Only a shutdown closes the registry. -/
theorem closed_obey (informers : Informers η) (command : Command) :
    (informers.obey command).tokens.closed = true ↔
      informers.tokens.closed = true ∨ command = .shutdown := by
  cases command with
  | obtain resource => simp [obey, closed_obtain]
  | stop type => simp [obey, tokens_stop, Tokens.closed_revoke]
  | stopAll => simp [obey, stopAll, Tokens.revokeAll]
  | changeClient client => simp [obey, changeClient]
  | shutdown => simp [obey, shutdown, Tokens.shutdown, Tokens.close, Tokens.revokeAll]

theorem closed_run (informers : Informers η) (commands : List Command) :
    (informers.run commands).tokens.closed = true ↔
      informers.tokens.closed = true ∨ .shutdown ∈ commands := by
  induction commands generalizing informers with
  | nil => simp [run]
  | cons command rest inductionHypothesis =>
      have step : informers.run (command :: rest) = (informers.obey command).run rest := rfl
      rw [step, inductionHypothesis, closed_obey, List.mem_cons, or_assoc]
      simp only [eq_comm]

/-! ## Who is stopped -/

theorem Owned.eq_of_live {informers : Informers η} (owned : informers.Owned)
    {id other : InformerId} (used : id < informers.started.length)
    (otherUsed : other < informers.started.length) (live : informers.isStopped id = false)
    (otherLive : informers.isStopped other = false)
    (same : (informers.informer id).type = (informers.informer other).type) : id = other := by
  have found := owned.owned used live
  rw [same, owned.owned otherUsed otherLive] at found
  exact (Option.some.inj found).symm

/-- A live informer runs under the token on record for its type. -/
theorem Owned.recorded_of_live {informers : Informers η} (owned : informers.Owned)
    {id : InformerId} (used : id < informers.started.length)
    (live : informers.isStopped id = false) :
    informers.tokens.current.get? (informers.informer id).type =
      some (informers.informer id).token := by
  rw [owned.registry (isStopped_eq_false_iff.1 live).1, owned.owned used live]
  rfl

/-! ## All sequences of commands -/

/-- How informers live and end under a sequence of commands. -/
structure Lifetimes (start : Informers η) (commands : List Command) : Prop where
  /-- Who is live is current for its type and runs under the token on record. -/
  owned : ∀ {id}, id < (start.run commands).started.length →
    (start.run commands).isStopped id = false →
    (start.run commands).find? ((start.run commands).informer id).type = some id ∧
      (start.run commands).tokens.current.get? ((start.run commands).informer id).type =
        some ((start.run commands).informer id).token
  /-- No type has two live informers. -/
  single : ∀ {id other}, id < (start.run commands).started.length →
    other < (start.run commands).started.length →
    (start.run commands).isStopped id = false →
    (start.run commands).isStopped other = false →
    ((start.run commands).informer id).type = ((start.run commands).informer other).type →
    id = other
  /-- Who was of a type when it was stopped is not live any more. -/
  stopped : ∀ {first rest type}, commands = first ++ .stop type :: rest →
    ∀ {id}, id < (start.run first).started.length →
    ((start.run first).informer id).type = type → (start.run commands).isStopped id = true
  /-- Who was there when all were stopped is not live any more. -/
  stoppedAll : ∀ {first rest}, commands = first ++ .stopAll :: rest →
    ∀ {id}, id < (start.run first).started.length → (start.run commands).isStopped id = true
  /-- Who was stopped, for whatever reason, is not live any more. -/
  final : ∀ {first rest}, commands = first ++ rest →
    ∀ {id}, id < (start.run first).started.length → (start.run first).isStopped id = true →
    (start.run commands).isStopped id = true
  /-- Without a shutdown, the types on record are those with a current informer. -/
  recorded : .shutdown ∉ commands → ∀ type,
    (start.run commands).tokens.contains type = true ↔
      ∃ id, (start.run commands).current.get? type = some (some id)
  /-- After a shutdown nobody is live, whether started before or after it. -/
  closed : .shutdown ∈ commands → ∀ id, (start.run commands).isStopped id = true

/-- Along every sequence of commands, live loops are owned, one for each type, and no loop comes
back to life. -/
theorem lifetimes_run (client : ClientId) (ns : Option String) (commands : List Command) :
    (empty client ns : Informers η).Lifetimes commands := by
  have ownedAfter : ∀ commands : List Command,
      ((empty client ns : Informers η).run commands).Owned :=
    (owned_empty client ns).run
  have final : ∀ {first rest : List Command}, commands = first ++ rest →
      ∀ {id}, id < ((empty client ns : Informers η).run first).started.length →
      ((empty client ns : Informers η).run first).isStopped id = true →
      ((empty client ns : Informers η).run commands).isStopped id = true := by
    rintro first rest rfl id used stopped
    rw [run_append]
    exact (persists_run _ rest).isStopped used stopped
  have finalAfter : ∀ {first rest : List Command} {command : Command},
      commands = first ++ command :: rest →
      ∀ {id}, id < ((empty client ns : Informers η).run first).started.length →
      (((empty client ns : Informers η).run first).obey command).isStopped id = true →
      ((empty client ns : Informers η).run commands).isStopped id = true := by
    rintro first rest command rfl id used stopped
    rw [run_append]
    have usedAfter := Nat.lt_of_lt_of_le used (persists_obey _ command).started
    exact (persists_run (obey _ command) rest).isStopped usedAfter stopped
  constructor
  case owned =>
    intro id used live
    exact ⟨(ownedAfter commands).owned used live, (ownedAfter commands).recorded_of_live used live⟩
  case single => exact (ownedAfter commands).eq_of_live
  case stopped =>
    rintro first rest type split id used rfl
    exact finalAfter split used ((ownedAfter first).isStopped_stop used)
  case stoppedAll =>
    intro first rest split id used
    exact finalAfter split used ((ownedAfter first).isStopped_stopAll used)
  case final => exact final
  case recorded =>
    intro noShutdown type
    have isOpen : ((empty client ns : Informers η).run commands).tokens.closed = false := by
      rw [← Bool.not_eq_true, closed_run, not_or]
      exact ⟨Bool.false_ne_true, noShutdown⟩
    simp only [Tokens.contains, Table.contains, (ownedAfter commands).registry isOpen type,
      Option.isSome_map, Option.isSome_iff_exists, find?, Option.join_eq_some_iff]
  case closed =>
    intro shutdown id
    exact isStopped_iff.2 (Or.inl ((closed_run _ commands).2 (Or.inr shutdown)))

end ClusterCache.Informers
