import ClusterCache.Proofs.Informer.Loop

/-!
# Tellings

A delivery is a sequence of tellings: each is about one change, and goes to the handlers that were
registered when it began. This module cuts the deliveries of a whole run into their tellings. The
run may be interrupted between two turns by whatever else happens in the world. What is asked of the
world is only that nobody but the loop touches the replica and that a cancelled token stays
cancelled. Under that condition nothing is told in a world in which the token is cancelled already,
and when it is cancelled in the middle of a telling, no telling follows.
-/

namespace ClusterCache

/-- The notification of one change, and the world in which it began. -/
structure Telling (ω : Type) where
  change : Change
  began : ω

namespace Surroundings

variable {ω η : Type} (around : Surroundings ω η)

/-! ## What only the loop may do -/

/-- The replica is the same, and a cancelled token is still cancelled. -/
structure Respects (before after : ω) : Prop where
  replica : (around.informer after).replica = (around.informer before).replica
  cancelled : around.isCancelled before = true → around.isCancelled after = true

theorem Respects.refl (world : ω) : around.Respects world world := ⟨rfl, id⟩

variable {around} in
theorem Respects.trans {first second third : ω} (left : around.Respects first second)
    (right : around.Respects second third) : around.Respects first third :=
  ⟨right.replica.trans left.replica, right.cancelled ∘ left.cancelled⟩

/-- Handlers may do anything, except touch the replica or call a cancellation back. Nor does it
call a cancellation back to change what else the informer holds. -/
structure Lawful : Prop where
  call : ∀ entry change world, around.Respects world (around.call entry change world)
  replace : ∀ informer world, informer.replica = (around.informer world).replica →
    informer.token = (around.informer world).token →
    around.Respects world (around.replace informer world)

/-! ## The tellings of a delivery -/

def callEach (change : Change) (entries : List (Subscription η)) (world : ω) : ω :=
  entries.foldl (fun world entry => around.call entry change world) world

/-- The handlers that a telling goes to. -/
def audience (telling : Telling ω) : List (Subscription η) :=
  (around.informer telling.began).handlers.matching telling.change

def afterTelling (telling : Telling ω) : ω :=
  around.callEach telling.change (around.audience telling) telling.began

/-- What a log holds of a telling. -/
def entries (telling : Telling ω) : List (WatchId × Change) :=
  (around.audience telling).map fun entry => (entry.id, telling.change)

/-- The tellings of a delivery. -/
def tellings : List Change → ω → List (Telling ω)
  | [], _ => []
  | change :: rest, world =>
      if around.isCancelled world then []
      else ⟨change, world⟩ :: tellings rest (around.afterTelling ⟨change, world⟩)

theorem deliver_cons_of_going {world : ω} (going : around.isCancelled world = false)
    (change : Change) (rest : List Change) :
    around.deliver (change :: rest) world =
      around.deliver rest (around.afterTelling ⟨change, world⟩) := by
  rw [deliver, going]
  rfl

theorem tellings_cons_of_going {world : ω} (going : around.isCancelled world = false)
    (change : Change) (rest : List Change) :
    around.tellings (change :: rest) world =
      ⟨change, world⟩ :: around.tellings rest (around.afterTelling ⟨change, world⟩) := by
  rw [tellings, going]
  rfl

theorem deliver_of_cancelled {world : ω} (cancelled : around.isCancelled world = true)
    (changes : List Change) : around.deliver changes world = world := by
  cases changes with
  | nil => rfl
  | cons change rest => rw [deliver, if_pos cancelled]

theorem tellings_of_cancelled {world : ω} (cancelled : around.isCancelled world = true)
    (changes : List Change) : around.tellings changes world = [] := by
  cases changes with
  | nil => rfl
  | cons change rest => rw [tellings, if_pos cancelled]

theorem log_deliver (changes : List Change) (world : ω) (log : List (WatchId × Change)) :
    (around.logged.deliver changes (world, log)).2 =
      log ++ (around.tellings changes world).flatMap around.entries := by
  induction changes generalizing world log with
  | nil => simp [deliver, tellings]
  | cons change rest inductionHypothesis =>
      have notified :
          (around.informer world).handlers.notify around.logged.call change (world, log) =
            (around.afterTelling ⟨change, world⟩, log ++ around.entries ⟨change, world⟩) :=
        around.notify_logged _ change world log
      rw [deliver, tellings, isCancelled_logged, informer_logged, notified]
      cases cancelled : around.isCancelled world with
      | true => simp
      | false => simp [inductionHypothesis]

/-- No telling begins under a cancelled token. -/
theorem going_of_mem_tellings {changes : List Change} {world : ω} {telling : Telling ω}
    (member : telling ∈ around.tellings changes world) :
    around.isCancelled telling.began = false := by
  induction changes generalizing world with
  | nil => cases member
  | cons change rest inductionHypothesis =>
      cases cancelled : around.isCancelled world with
      | true =>
          rw [around.tellings_of_cancelled cancelled] at member
          cases member
      | false =>
          rw [around.tellings_cons_of_going cancelled] at member
          rcases List.mem_cons.1 member with isFirst | inRest
          · rw [isFirst]
            exact cancelled
          · exact inductionHypothesis inRest

/-- A delivery tells its changes in order, and leaves out at most the last ones. -/
theorem tellings_prefix (changes : List Change) (world : ω) :
    (around.tellings changes world).map Telling.change <+: changes := by
  induction changes generalizing world with
  | nil => exact List.prefix_refl _
  | cons change rest inductionHypothesis =>
      rw [tellings]
      split
      · exact List.nil_prefix
      · exact (List.prefix_cons_inj change).2 (inductionHypothesis _)

/-- When the token is cancelled at the end of a telling, that telling was the last. -/
theorem tellings_split {changes : List Change} {world : ω} {first rest : List (Telling ω)}
    {telling : Telling ω} (split : around.tellings changes world = first ++ telling :: rest)
    (cancelled : around.isCancelled (around.afterTelling telling) = true) :
    rest = [] ∧ around.deliver changes world = around.afterTelling telling := by
  induction changes generalizing world first with
  | nil => simp [tellings] at split
  | cons change others inductionHypothesis =>
      cases already : around.isCancelled world with
      | true =>
          rw [around.tellings_of_cancelled already] at split
          simp at split
      | false =>
          rw [around.tellings_cons_of_going already] at split
          rw [around.deliver_cons_of_going already]
          -- The induction is on the changes: a telling that is not the first is one of the rest.
          cases first with
          | nil =>
              obtain ⟨rfl, others⟩ := List.cons.inj split
              rw [around.tellings_of_cancelled cancelled] at others
              exact ⟨others.symm, around.deliver_of_cancelled cancelled _⟩
          | cons head tail => exact inductionHypothesis (List.cons.inj split).2

variable {around}

theorem Lawful.respects_callEach (lawful : around.Lawful) (change : Change)
    (entries : List (Subscription η)) (world : ω) :
    around.Respects world (around.callEach change entries world) := by
  unfold callEach
  induction entries generalizing world with
  | nil => exact Respects.refl around world
  | cons entry rest inductionHypothesis =>
      exact (lawful.call entry change world).trans (inductionHypothesis _)

/-- What is cancelled after some of the calls of a telling is cancelled after the telling, and
those calls have left the replica what it will then be. -/
theorem Lawful.respects_rest (lawful : around.Lawful) {telling : Telling ω}
    {called remaining : List (Subscription η)}
    (split : around.audience telling = called ++ remaining) :
    around.Respects (around.callEach telling.change called telling.began)
      (around.afterTelling telling) := by
  have whole : around.afterTelling telling = around.callEach telling.change remaining
      (around.callEach telling.change called telling.began) := by
    rw [afterTelling, split, callEach, List.foldl_append]
    rfl
  rw [whole]
  exact lawful.respects_callEach _ _ _

/-! ## The tellings of a turn -/

variable (around)

/-- The world when the next item is out of the inbox. -/
def withoutFirst (world : ω) : ω :=
  around.replace
    { around.informer world with inbox := (around.informer world).inbox.tail } world

/-- The world when an item has been taken in and nobody was told yet. -/
def swapped (item : StreamItem) (world : ω) : ω :=
  around.replace
    { around.informer (around.withoutFirst world) with
      replica := ((around.informer (around.withoutFirst world)).replica.takeItem item).1 }
    (around.withoutFirst world)

/-- The changes that the next item makes. -/
def news (item : StreamItem) (world : ω) : List Change :=
  ((around.informer (around.withoutFirst world)).replica.takeItem item).2

/-- The tellings of the next turn. -/
def turnTellings (world : ω) : List (Telling ω) :=
  match around.next? world with
  | none => []
  | some item => around.tellings (around.news item world) (around.swapped item world)

theorem turn_eq_deliver {world : ω} {item : StreamItem}
    (next : around.next? world = some item) :
    around.turn world =
      around.deliver (around.news item world) (around.swapped item world) :=
  around.turn_of_next?_some next

theorem told_eq_flatMap (world : ω) :
    around.told world = (around.turnTellings world).flatMap around.entries := by
  unfold told turnTellings
  cases next : around.next? world with
  | none =>
      rw [around.turn_logged_of_next?_none next]
      rfl
  | some item =>
      have logged := around.turn_logged_of_next?_some next []
      rw [logged]
      exact around.log_deliver (around.news item world) (around.swapped item world) []

theorem next?_of_cancelled {world : ω} (cancelled : around.isCancelled world = true) :
    around.next? world = none := by
  simp [next?, cancelled]

variable {around}

theorem Lawful.news_eq (lawful : around.Lawful) (item : StreamItem) (world : ω) :
    around.news item world = ((around.informer world).replica.takeItem item).2 := by
  have kept : around.Respects world (around.withoutFirst world) :=
    lawful.replace _ world rfl rfl
  rw [news, kept.replica]

theorem Lawful.respects_turn_of_none (lawful : around.Lawful) {world : ω}
    (nothing : around.next? world = none) : around.Respects world (around.turn world) := by
  rcases around.turn_of_next?_none nothing with same | left
  · rw [same]
    exact Respects.refl around world
  · rw [left]
    exact lawful.replace _ world rfl rfl

/-! ## The tellings of a run -/

/-- What happens to a loop: it turns, or something else happens in the world. -/
inductive Event (ω : Type)
  | turn
  | outside (act : ω → ω)

/-- What else happens respects the loop. -/
def Event.IsLawful (around : Surroundings ω η) : Event ω → Prop
  | .turn => True
  | .outside act => ∀ world, around.Respects world (act world)

variable (around)

def happen (world : ω) : Event ω → ω
  | .turn => around.turn world
  | .outside act => act world

def afterAll (events : List (Event ω)) (world : ω) : ω := events.foldl around.happen world

def eventTellings (world : ω) : Event ω → List (Telling ω)
  | .turn => around.turnTellings world
  | .outside _ => []

def history : List (Event ω) → ω → List (Telling ω)
  | [], _ => []
  | event :: rest, world =>
      around.eventTellings world event ++ history rest (around.happen world event)

/-- What a run tells to which registration. -/
def heard : List (Event ω) → ω → List (WatchId × Change)
  | [], _ => []
  | .turn :: rest, world => around.told world ++ heard rest (around.turn world)
  | .outside act :: rest, world => heard rest (act world)

/-- The items that a run takes in. -/
def consumed : List (Event ω) → ω → List StreamItem
  | [], _ => []
  | .turn :: rest, world => (around.next? world).toList ++ consumed rest (around.turn world)
  | .outside act :: rest, world => consumed rest (act world)

theorem afterAll_append (first last : List (Event ω)) (world : ω) :
    around.afterAll (first ++ last) world = around.afterAll last (around.afterAll first world) :=
  List.foldl_append

theorem heard_eq_flatMap (events : List (Event ω)) (world : ω) :
    around.heard events world = (around.history events world).flatMap around.entries := by
  induction events generalizing world with
  | nil => rfl
  | cons event rest inductionHypothesis =>
      rw [history, List.flatMap_append, ← inductionHypothesis]
      cases event with
      | turn => rw [heard, around.told_eq_flatMap]; rfl
      | outside act => rfl

theorem going_of_mem_history {events : List (Event ω)} {world : ω} {telling : Telling ω}
    (member : telling ∈ around.history events world) :
    around.isCancelled telling.began = false := by
  induction events generalizing world with
  | nil => cases member
  | cons event rest inductionHypothesis =>
      rcases List.mem_append.1 member with now | later
      · cases event with
        | turn =>
            simp only [eventTellings, turnTellings] at now
            split at now
            · cases now
            · exact around.going_of_mem_tellings now
        | outside act => cases now
      · exact inductionHypothesis later

variable {around}

/-- Once the token is cancelled, an event takes nothing in, tells nothing and leaves the replica. -/
theorem Lawful.frozen_happen (lawful : around.Lawful) {world : ω}
    (cancelled : around.isCancelled world = true) {event : Event ω}
    (isLawful : event.IsLawful around) :
    around.Respects world (around.happen world event) ∧ around.eventTellings world event = [] := by
  cases event with
  | turn =>
      have nothing := around.next?_of_cancelled cancelled
      refine ⟨lawful.respects_turn_of_none nothing, ?_⟩
      simp [eventTellings, turnTellings, nothing]
  | outside act => exact ⟨isLawful world, rfl⟩

/-- Once the token is cancelled, a run takes nothing in, tells nothing and leaves the replica. -/
theorem Lawful.frozen_afterAll (lawful : around.Lawful) {events : List (Event ω)} {world : ω}
    (cancelled : around.isCancelled world = true)
    (areLawful : ∀ event ∈ events, event.IsLawful around) :
    around.Respects world (around.afterAll events world) ∧ around.history events world = [] ∧
      around.consumed events world = [] := by
  induction events generalizing world with
  | nil => exact ⟨Respects.refl around world, rfl, rfl⟩
  | cons event rest inductionHypothesis =>
      obtain ⟨respects, noTellings⟩ :=
        lawful.frozen_happen cancelled (areLawful event List.mem_cons_self)
      obtain ⟨restRespects, restTellings, restConsumed⟩ :=
        inductionHypothesis (respects.cancelled cancelled)
          fun other member => areLawful other (List.mem_cons_of_mem _ member)
      refine ⟨respects.trans restRespects, ?_, ?_⟩
      · rw [history, noTellings, restTellings]
        rfl
      · cases event with
        | turn =>
            rw [consumed, around.next?_of_cancelled cancelled]
            exact restConsumed
        | outside act => exact restConsumed

/-- When the token is cancelled at the end of a telling, that telling was the last of the event. -/
theorem eventTellings_split {world : ω} {event : Event ω} {first rest : List (Telling ω)}
    {telling : Telling ω}
    (split : around.eventTellings world event = first ++ telling :: rest)
    (cancelled : around.isCancelled (around.afterTelling telling) = true) :
    rest = [] ∧ around.happen world event = around.afterTelling telling := by
  cases event with
  | turn =>
      simp only [eventTellings, turnTellings] at split
      cases next : around.next? world with
      | none => simp [next] at split
      | some item =>
          rw [next] at split
          obtain ⟨noRest, delivered⟩ := around.tellings_split split cancelled
          exact ⟨noRest, (around.turn_eq_deliver next).trans delivered⟩
  | outside act => simp [eventTellings] at split

/-- When the token is cancelled at the end of a telling, that telling was the last of the run, and
the replica stays what it was then. -/
theorem Lawful.history_split (lawful : around.Lawful) {events : List (Event ω)} {world : ω}
    (areLawful : ∀ event ∈ events, event.IsLawful around) {first rest : List (Telling ω)}
    {telling : Telling ω} (split : around.history events world = first ++ telling :: rest)
    (cancelled : around.isCancelled (around.afterTelling telling) = true) :
    rest = [] ∧ around.Respects (around.afterTelling telling) (around.afterAll events world) := by
  induction events generalizing world first with
  | nil => simp [history] at split
  | cons event others inductionHypothesis =>
      have othersLawful : ∀ other ∈ others, other.IsLawful around :=
        fun other member => areLawful other (List.mem_cons_of_mem _ member)
      -- If the telling belongs to this event, the event was the last to tell anything.
      have earlier : ∀ restNow, around.eventTellings world event = first ++ telling :: restNow →
          rest = restNow ++ around.history others (around.happen world event) →
          rest = [] ∧ around.Respects (around.afterTelling telling)
            (around.afterAll (event :: others) world) := by
        intro restNow splitNow restEq
        obtain ⟨noRestNow, happened⟩ := eventTellings_split splitNow cancelled
        rw [happened] at restEq
        obtain ⟨respects, noTellings, -⟩ := lawful.frozen_afterAll cancelled othersLawful
        refine ⟨by rw [restEq, noRestNow, noTellings]; rfl, ?_⟩
        rw [afterAll, List.foldl_cons, happened]
        exact respects
      rw [history] at split
      rcases List.append_eq_append_iff.1 split with ⟨between, inLater, laterEq⟩ |
        ⟨between, inNow, nowEq⟩
      · exact inductionHypothesis othersLawful laterEq
      · cases between with
        | nil =>
            have laterEq : around.history others (around.happen world event) =
                [] ++ telling :: rest := nowEq.symm
            exact inductionHypothesis othersLawful laterEq
        | cons head tail =>
            obtain ⟨rfl, restEq⟩ := List.cons.inj nowEq
            exact earlier tail inNow restEq

end Surroundings

end ClusterCache
