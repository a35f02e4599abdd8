import ClusterCache.Proofs.System.Loading
import ClusterCache.Proofs.System.Passage

/-!
# How many reviews are in flight

Who reviews holds a lock, so two reviews under one lock are one review. Calls for a key meet at the
lock on the register as long as that lock stays on it for all who wait there. A review that fails
takes the lock off the register while others wait at it: one of those reviews next, and a call that
comes later makes another lock and reviews at the same time. Main statement: if no review of a key
fails while others wait for it, and its decision is never forgotten over the heads of those who
wait, then at most one review of the key is in flight, and a second one succeeds only after the
first decision was forgotten.
-/

namespace ClusterCache.System

variable {system : System} {key : AccessKey} {move : Move} {call other : CallId}

/-- By the move a known decision on the key is forgotten. -/
def Forgets (key : AccessKey) (system : System) (move : Move) : Prop :=
  system.store.access.decisions.get? key ≠ none ∧
    (system.apply move).store.access.decisions.get? key = none

instance : Decidable (Forgets key system move) := inferInstanceAs (Decidable (_ ∧ _))

/-- Everybody who waits to review the key waits at the lock on the register. -/
def Gathered (system : System) (key : AccessKey) : Prop :=
  ∀ {call flight}, system.standing call = .waiting key flight →
    system.store.access.flights.register.get? key = some flight

/-- By the move no review of the key fails while others wait, and its decision is not forgotten over
the heads of those who wait elsewhere than at the lock on the register. -/
structure Smooth (key : AccessKey) (system : System) (move : Move) : Prop where
  unawaited : ∀ error, Answers key (.error error) system move →
    ∀ call flight, system.standing call ≠ .waiting key flight
  gathered : Forgets key system move → system.Gathered key

theorem smooth_of_unawaited
    (unawaited : ∀ call flight, system.standing call ≠ .waiting key flight) :
    Smooth key system move where
  unawaited _ _ := unawaited
  gathered _ _ _ waits := absurd waits (unawaited _ _)

theorem smooth_of_kept (unfailing : ∀ error, ¬ Answers key (.error error) system move)
    (kept : ¬ Forgets key system move) : Smooth key system move where
  unawaited error answers := absurd answers (unfailing error)
  gathered forgets := absurd forgets kept

/-! ## One review at a time -/

/-- Who reviews the key holds the lock on the register, and who waits to review it waits there, or
has a decision to read. -/
structure Single (system : System) (key : AccessKey) : Prop where
  holds : ∀ {call flight}, system.standing call = .reviewing key flight →
    system.store.access.flights.isHolder flight call = true
  registered : ∀ {call flight}, system.standing call = .reviewing key flight →
    system.store.access.flights.register.get? key = some flight
  waiting : ∀ {call flight}, system.standing call = .waiting key flight →
    system.store.access.decisions.get? key ≠ none ∨
      system.store.access.flights.register.get? key = some flight

theorem single_start (config : StoreConfig) (client : ClientId) (key : AccessKey) :
    (start config client).Single key where
  holds stands := by cases stands
  registered stands := by cases stands
  waiting stands := by cases stands

theorem Single.unique (single : system.Single key) (reviews : system.Reviews key call)
    (otherReviews : system.Reviews key other) : call = other := by
  obtain ⟨flight, stands⟩ := reviews
  obtain ⟨otherFlight, otherStands⟩ := otherReviews
  have same : flight = otherFlight := by
    have registered := single.registered stands
    rw [single.registered otherStands] at registered
    exact (Option.some.inj registered).symm
  subst same
  exact Flights.holder_unique (single.holds stands) (single.holds otherStands)

theorem Single.registered_of_waiting (single : system.Single key) (smooth : Smooth key system move)
    (undecided : (system.apply move).store.access.decisions.get? key = none) {flight : FlightId}
    (waits : system.standing call = .waiting key flight) :
    system.store.access.flights.register.get? key = some flight := by
  by_cases decided : system.store.access.decisions.get? key = none
  · exact (single.waiting waits).resolve_left (absurd decided)
  · exact smooth.gathered ⟨decided, undecided⟩ waits

/-- A smooth move takes the lock of the key off the register only as its review decides, or while
nobody waits. -/
theorem Smooth.register_apply (smooth : Smooth key system move) {flight : FlightId}
    (registered : system.store.access.flights.register.get? key = some flight) :
    (system.apply move).store.access.flights.register.get? key = some flight ∨
      ∃ call, system.isMoveOf call move = true ∧ system.Reviews key call ∧
        ((system.apply move).store.access.decisions.get? key ≠ none ∨
          ∀ other lock, system.standing other ≠ .waiting key lock) := by
  by_cases own : ∃ call, system.isMoveOf call move = true
  · obtain ⟨call, own⟩ := own
    obtain ⟨current, _, passes⟩ := passes_apply own
    rcases passes.register registered with kept | ⟨struck, stands, decided | ⟨error, answered⟩⟩
    · exact Or.inl kept
    · exact Or.inr ⟨call, own, ⟨struck, stands⟩, Or.inl decided⟩
    · have unawaited := smooth.unawaited error ⟨call, answered, struck, stands⟩
      exact Or.inr ⟨call, own, ⟨struck, stands⟩, Or.inr unawaited⟩
  · have foreign : ∀ call, system.isMoveOf call move = false := by simpa using own
    rw [access_of_foreign foreign, Move.flights_onAccess]
    exact Or.inl registered

section Apply

variable (single : system.Single key) (smooth : Smooth key system move)

include single smooth

theorem Single.registered_apply {flight : FlightId}
    (stands : (system.apply move).standing call = .reviewing key flight) :
    (system.apply move).store.access.flights.register.get? key = some flight := by
  by_cases own : system.isMoveOf call move = true
  · obtain ⟨current, _, passes⟩ := passes_apply own
    rw [stands] at passes
    rcases passes.reviewing with ⟨before, access⟩ | ⟨undecided, _, _, joined | ⟨before, access⟩⟩
    · rw [access]
      exact single.registered before
    · exact joined
    · rw [access]
      exact (single.waiting before).resolve_left (absurd undecided)
  · rw [standing_of_not_isMoveOf (by simpa using own)] at stands
    rcases smooth.register_apply (single.registered stands) with
      kept | ⟨mover, moves, reviews, _⟩
    · exact kept
    · -- Only the call itself could have taken its lock off the register.
      have same := single.unique reviews ⟨flight, stands⟩
      exact absurd (same ▸ moves) own

theorem Single.apply : (system.apply move).Single key where
  holds := holds_apply single.holds move
  registered := single.registered_apply smooth
  waiting := by
    intro call flight stands
    by_cases decided : (system.apply move).store.access.decisions.get? key = none
    · refine Or.inr ?_
      have stays : ∀ {call}, system.standing call = .waiting key flight →
          (system.apply move).store.access.flights.register.get? key = some flight := by
        intro call waits
        have registered := single.registered_of_waiting smooth decided waits
        rcases smooth.register_apply registered with kept | ⟨_, _, _, known | unawaited⟩
        · exact kept
        · exact absurd decided known
        · exact absurd waits (unawaited call flight)
      by_cases own : system.isMoveOf call move = true
      · obtain ⟨current, _, passes⟩ := passes_apply own
        rw [stands] at passes
        rcases passes.waiting with ⟨before, _⟩ | joined
        · exact stays before
        · exact joined
      · rw [standing_of_not_isMoveOf (by simpa using own)] at stands
        exact stays stands
    · exact Or.inl decided

end Apply

theorem Single.run (single : system.Single key) {moves : List Move}
    (smooth : system.Every (Smooth key) moves) : (system.run moves).Single key := by
  induction moves generalizing system with
  | nil => exact single
  | cons move rest inductionHypothesis =>
      obtain ⟨smoothMove, smoothRest⟩ := smooth
      exact inductionHypothesis (single.apply smoothMove) smoothRest

/-! ## Once decided -/

/-- The key is decided, and no review of it is in flight any more. -/
structure Closed (system : System) (key : AccessKey) : Prop where
  decided : system.store.access.decisions.get? key ≠ none
  unreviewed : ∀ call, ¬ system.Reviews key call

/-- Nobody asks for what is decided, so a decided key stays so until it is forgotten. -/
theorem Closed.apply (closed : system.Closed key) (kept : ¬ Forgets key system move) :
    (system.apply move).Closed key where
  decided undecided := kept ⟨closed.decided, undecided⟩
  unreviewed := by
    rintro call ⟨flight, stands⟩
    by_cases own : system.isMoveOf call move = true
    · obtain ⟨current, _, passes⟩ := passes_apply own
      rw [stands] at passes
      rcases passes.reviewing with ⟨before, _⟩ | ⟨undecided, _⟩
      · exact closed.unreviewed call ⟨flight, before⟩
      · exact closed.decided undecided
    · rw [standing_of_not_isMoveOf (by simpa using own)] at stands
      exact closed.unreviewed call ⟨flight, stands⟩

/-- A review that decides was the only one of its key. -/
theorem Single.closed (single : system.Single key) {allowed : Bool}
    (answers : Answers key (.ok allowed) system move) : (system.apply move).Closed key := by
  obtain ⟨mover, rfl, reviews⟩ := answers
  obtain ⟨current, lock, called, stands⟩ := reviews.called
  have own := isMoveOf_answer called (.review (.ok allowed))
  obtain ⟨stored, calledAfter⟩ := apply_of_isMoveOf called own
  rw [Call.next_of_reviewing stands] at stored calledAfter
  obtain ⟨decisions, away⟩ :=
    system.store.reviewed_ok mover current.operation key lock allowed
  constructor
  case decided =>
    rw [stored, decisions, Table.get?_insert_self]
    exact Option.some_ne_none allowed
  case unreviewed =>
    rintro call ⟨flight, standsAfter⟩
    by_cases same : call = mover
    · subst same
      rw [standing_of_calls calledAfter, away] at standsAfter
      cases standsAfter
    · have foreign : system.isMoveOf call (.answer mover (.review (.ok allowed))) = false := by
        simp [isMoveOf, Ne.symm same]
      rw [standing_of_not_isMoveOf foreign] at standsAfter
      exact same (single.unique ⟨flight, standsAfter⟩ reviews)

/-! ## All runs -/

theorem Every.of_append {allowed : System → Move → Prop} {first rest : List Move}
    (every : system.Every allowed (first ++ rest)) :
    system.Every allowed first ∧ (system.run first).Every allowed rest := by
  induction first generalizing system with
  | nil => exact ⟨trivial, every⟩
  | cons move first inductionHypothesis =>
      obtain ⟨allowedMove, allowedRest⟩ := every
      obtain ⟨allowedFirst, allowedLater⟩ := inductionHypothesis allowedRest
      exact ⟨⟨allowedMove, allowedFirst⟩, allowedLater⟩

/-- Unless its decision is forgotten on the way, a decided key is not reviewed. -/
theorem Closed.exists_forgets (closed : system.Closed key) {between : List Move}
    (reviews : (system.run between).Reviews key call) :
    ∃ before forgetting after, between = before ++ forgetting :: after ∧
      Forgets key (system.run before) forgetting := by
  induction between generalizing system with
  | nil => exact absurd reviews (closed.unreviewed call)
  | cons move rest inductionHypothesis =>
      by_cases forgets : Forgets key system move
      · exact ⟨[], move, rest, rfl, forgets⟩
      · obtain ⟨before, forgetting, after, split, forgetsLater⟩ :=
          inductionHypothesis (closed.apply forgets) reviews
        exact ⟨move :: before, forgetting, after, by rw [split, List.cons_append], forgetsLater⟩

/-- If no review of the key fails while others wait, and its decision is not forgotten over the
heads of those who wait, then at most one review of it is in flight at any moment, and after one has
succeeded another succeeds only if the decision was forgotten in between. -/
theorem reviews_single_flighted (config : StoreConfig) (client : ClientId) (key : AccessKey)
    (moves : List Move) (smooth : (start config client).Every (Smooth key) moves) :
    (∀ first rest, moves = first ++ rest → ∀ call other,
      ((start config client).run first).Reviews key call →
      ((start config client).run first).Reviews key other → call = other) ∧
      ∀ first succeeding between again rest allowed allowedAgain,
        moves = first ++ succeeding :: between ++ again :: rest →
        Answers key (.ok allowed) ((start config client).run first) succeeding →
        Answers key (.ok allowedAgain)
          ((start config client).run (first ++ succeeding :: between)) again →
        ∃ before forgetting after, between = before ++ forgetting :: after ∧
          Forgets key ((start config client).run (first ++ succeeding :: before)) forgetting := by
  have singleAfter : ∀ first rest, moves = first ++ rest →
      ((start config client).run first).Single key := by
    rintro first rest rfl
    exact (single_start config client key).run smooth.of_append.1
  constructor
  · intro first rest split call other reviews otherReviews
    exact (singleAfter first rest split).unique reviews otherReviews
  · intro first succeeding between again rest allowed allowedAgain split succeeds succeedsAgain
    have single := singleAfter first (succeeding :: between ++ again :: rest) (by simpa using split)
    obtain ⟨call, _, reviews⟩ := succeedsAgain
    rw [run_append, run_cons] at reviews
    obtain ⟨before, forgetting, after, splitBetween, forgets⟩ :=
      (single.closed succeeds).exists_forgets reviews
    refine ⟨before, forgetting, after, splitBetween, ?_⟩
    rw [run_append, run_cons]
    exact forgets

/-! Jobs that are built: a run in which a review fails while nobody waits for it, two calls then
need one decision, and the decision is forgotten later; and a run in which a review fails while a
call waits for it. -/

def buildKey : Key := .ofScope "ci" "batch/v1" "Job"

def buildAccess : AccessKey := ⟨"ci", "batch", "jobs", "list"⟩

def buildAnswer : Answer := .resource (.ok (.served "batch" "v1" "Job" "jobs"))

def smoothBuild : List Move :=
  [.begin (.checkAccess buildKey "list"), .answer 0 buildAnswer,
    .answer 0 (.review (.error (.custom "down"))),
    .begin (.checkAccess buildKey "list"), .begin (.checkAccess buildKey "list"),
    .answer 1 buildAnswer, .answer 2 buildAnswer, .answer 1 (.review (.ok true)), .takeLock 2,
    .forgetDecisions, .begin (.checkAccess buildKey "list"), .answer 3 buildAnswer,
    .answer 3 (.review (.ok true))]

def failingBuild : List Move :=
  [.begin (.checkAccess buildKey "list"), .begin (.checkAccess buildKey "list"),
    .answer 0 buildAnswer, .answer 1 buildAnswer, .answer 0 (.review (.error (.custom "down"))),
    .takeLock 1, .begin (.checkAccess buildKey "list"), .answer 2 buildAnswer]

theorem smooth_smoothBuild : (start .standard 0).Every (Smooth buildAccess) smoothBuild := by
  -- The call whose review fails is the only one so far.
  have failing : Smooth buildAccess ((start .standard 0).run (smoothBuild.take 2))
      (.answer 0 (.review (.error (.custom "down")))) := by
    refine smooth_of_unawaited fun call flight waits => ?_
    match call with
    | 0 | _ + 1 => cases waits
  -- All calls have ended when the decision is forgotten.
  have forgetting : Smooth buildAccess ((start .standard 0).run (smoothBuild.take 9))
      .forgetDecisions := by
    refine smooth_of_unawaited fun call flight waits => ?_
    match call with
    | 0 | 1 | 2 => cases waits
    | _ + 3 => cases waits
  refine ⟨?_, ?_, failing, ?_, ?_, ?_, ?_, ?_, ?_, forgetting, ?_, ?_, ?_, trivial⟩
  all_goals exact smooth_of_kept (fun _ ⟨_, answered, _⟩ => nomatch answered) (by decide)

theorem reviews_single_flighted_build :
    (start .standard 0).Every (Smooth buildAccess) smoothBuild ∧
      Answers buildAccess (.ok true) ((start .standard 0).run (smoothBuild.take 7))
        (.answer 1 (.review (.ok true))) ∧
      Answers buildAccess (.ok true) ((start .standard 0).run (smoothBuild.take 12))
        (.answer 3 (.review (.ok true))) ∧
      ∃ before forgetting after,
        [.takeLock 2, .forgetDecisions, .begin (.checkAccess buildKey "list"),
            .answer 3 buildAnswer] = before ++ forgetting :: after ∧
          Forgets buildAccess ((start .standard 0).run
            (smoothBuild.take 7 ++ .answer 1 (.review (.ok true)) :: before)) forgetting := by
  have answers : Answers buildAccess (.ok true) ((start .standard 0).run (smoothBuild.take 7))
      (.answer 1 (.review (.ok true))) := ⟨1, rfl, 1, rfl⟩
  have answersAgain : Answers buildAccess (.ok true)
      ((start .standard 0).run (smoothBuild.take 12)) (.answer 3 (.review (.ok true))) :=
    ⟨3, rfl, 2, rfl⟩
  exact ⟨smooth_smoothBuild, answers, answersAgain,
    (reviews_single_flighted .standard 0 buildAccess smoothBuild smooth_smoothBuild).2
      (smoothBuild.take 7) (.answer 1 (.review (.ok true)))
      [.takeLock 2, .forgetDecisions, .begin (.checkAccess buildKey "list"), .answer 3 buildAnswer]
      (.answer 3 (.review (.ok true))) [] true true rfl answers answersAgain⟩

/-- Once a review has failed while a call waited for it, two others may be in flight at the same
time, and both succeed. -/
theorem failed_review_admits_two :
    ((start .standard 0).run failingBuild).Reviews buildAccess 1 ∧
      ((start .standard 0).run failingBuild).Reviews buildAccess 2 ∧
      Answers buildAccess (.ok true) ((start .standard 0).run failingBuild)
        (.answer 1 (.review (.ok true))) ∧
      Answers buildAccess (.ok true)
        ((start .standard 0).run (failingBuild ++ [.answer 1 (.review (.ok true))]))
        (.answer 2 (.review (.ok true))) :=
  ⟨⟨0, rfl⟩, ⟨1, rfl⟩, ⟨1, rfl, 0, rfl⟩, ⟨2, rfl, 1, rfl⟩⟩

end ClusterCache.System
