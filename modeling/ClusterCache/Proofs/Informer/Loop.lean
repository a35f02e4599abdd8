import ClusterCache.Informer

/-!
# Turns of a loop

A turn takes in the next item, if there is one and the token is not cancelled, and tells the
handlers about the changes. The same loop can be run with a log of what it tells to whom. Main
statement: a registration that lasts through a delivery is told about every change that fits its
key, once and in order.
-/

namespace ClusterCache.Surroundings

variable {ω η : Type} (around : Surroundings ω η)

/-! ## The next item -/

/-- The item that the next turn takes in. -/
def next? (world : ω) : Option StreamItem :=
  if (around.informer world).running && !around.isCancelled world then
    (around.informer world).inbox.head?
  else none

theorem turn_of_next?_none {world : ω} (nothing : around.next? world = none) :
    around.turn world = world ∨
      around.turn world =
        around.replace { around.informer world with running := false } world := by
  by_cases running : (around.informer world).running = true
  · by_cases cancelled : around.isCancelled world = true
    · exact Or.inr (by simp [turn, running, cancelled])
    · cases inbox : (around.informer world).inbox with
      | nil =>
          by_cases ended : (around.informer world).ended = true
          · exact Or.inr (by simp [turn, running, cancelled, inbox, ended])
          · exact Or.inl (by simp [turn, running, cancelled, inbox, ended])
      | cons item rest => simp [next?, running, cancelled, inbox] at nothing
  · exact Or.inl (by simp [turn, running])

theorem turn_of_next?_some {world : ω} {item : StreamItem}
    (next : around.next? world = some item) :
    around.turn world =
      around.absorb item
        (around.replace
          { around.informer world with inbox := (around.informer world).inbox.tail } world) := by
  by_cases going : (around.informer world).running = true ∧ around.isCancelled world = false
  · cases inbox : (around.informer world).inbox with
    | nil => simp [next?, inbox] at next
    | cons first rest =>
        have same : first = item := by simpa [next?, going, inbox] using next
        simp [turn, going, inbox, same]
  · simp only [next?] at next
    split at next
    · simp_all
    · cases next

/-! ## What a delivery keeps -/

/-- What every call of a handler keeps, a notification keeps. -/
theorem notify_keeps (keeps : ω → ω → Prop) (refl : ∀ world, keeps world world)
    (trans : ∀ {first second third}, keeps first second → keeps second third →
      keeps first third)
    (call : ∀ subscription change world, keeps world (around.call subscription change world))
    (handlers : Handlers η) (change : Change) (world : ω) :
    keeps world (handlers.notify around.call change world) := by
  unfold Handlers.notify
  induction handlers.matching change generalizing world with
  | nil => exact refl world
  | cons entry rest inductionHypothesis =>
      exact trans (call entry change world) (inductionHypothesis _)

/-- What every call of a handler keeps, a delivery keeps. -/
theorem deliver_keeps (keeps : ω → ω → Prop) (refl : ∀ world, keeps world world)
    (trans : ∀ {first second third}, keeps first second → keeps second third →
      keeps first third)
    (call : ∀ subscription change world, keeps world (around.call subscription change world))
    (changes : List Change) (world : ω) :
    keeps world (around.deliver changes world) := by
  induction changes generalizing world with
  | nil => exact refl world
  | cons change rest inductionHypothesis =>
      unfold deliver
      split
      · exact refl world
      · exact trans (around.notify_keeps keeps refl trans call _ change world)
          (inductionHypothesis _)

/-- What calling any handler that may be registered preserves, a notification of such handlers
preserves. -/
theorem notify_preserves {sound : ω → Prop} {mayRegister : Subscription η → Prop}
    (call : ∀ entry change world, mayRegister entry → sound world →
      sound (around.call entry change world))
    {handlers : Handlers η} (registered : ∀ entry ∈ handlers.subscriptions, mayRegister entry)
    (change : Change) {world : ω} (soundWorld : sound world) :
    sound (handlers.notify around.call change world) := by
  have matching : ∀ entry ∈ handlers.matching change, mayRegister entry :=
    fun entry member => registered entry (List.mem_filter.1 member).1
  unfold Handlers.notify
  generalize handlers.matching change = entries at matching
  induction entries generalizing world with
  | nil => exact soundWorld
  | cons entry rest inductionHypothesis =>
      have called := call entry change world (matching entry List.mem_cons_self) soundWorld
      exact inductionHypothesis called fun other member =>
        matching other (List.mem_cons_of_mem _ member)

theorem deliver_preserves {sound : ω → Prop} {mayRegister : Subscription η → Prop}
    (registered : ∀ world, sound world →
      ∀ entry ∈ (around.informer world).handlers.subscriptions, mayRegister entry)
    (call : ∀ entry change world, mayRegister entry → sound world →
      sound (around.call entry change world))
    (changes : List Change) {world : ω} (soundWorld : sound world) :
    sound (around.deliver changes world) := by
  induction changes generalizing world with
  | nil => exact soundWorld
  | cons change rest inductionHypothesis =>
      unfold deliver
      split
      · exact soundWorld
      · exact inductionHypothesis
          (around.notify_preserves call (registered world soundWorld) change soundWorld)

/-! ## The log -/

/-- The surroundings together with a log of what is told to which registration. -/
def logged : Surroundings (ω × List (WatchId × Change)) η where
  informer world := around.informer world.1
  replace informer world := (around.replace informer world.1, world.2)
  isCancelled world := around.isCancelled world.1
  call subscription change world :=
    (around.call subscription change world.1, world.2 ++ [(subscription.id, change)])

@[simp] theorem informer_logged (world : ω) (log : List (WatchId × Change)) :
    around.logged.informer (world, log) = around.informer world := rfl

@[simp] theorem isCancelled_logged (world : ω) (log : List (WatchId × Change)) :
    around.logged.isCancelled (world, log) = around.isCancelled world := rfl

@[simp] theorem replace_logged (informer : Informer η) (world : ω)
    (log : List (WatchId × Change)) :
    around.logged.replace informer (world, log) = (around.replace informer world, log) := rfl

/-- What the next turn tells to which registration. -/
def told (world : ω) : List (WatchId × Change) := (around.logged.turn (world, [])).2

/-- The changes that a log holds for a registration. -/
def heardBy (id : WatchId) (log : List (WatchId × Change)) : List Change :=
  (log.filter fun entry => entry.1 = id).map Prod.snd

@[simp] theorem heardBy_append (id : WatchId) (first second : List (WatchId × Change)) :
    heardBy id (first ++ second) = heardBy id first ++ heardBy id second := by
  simp [heardBy]

theorem notify_logged (handlers : Handlers η) (change : Change) (world : ω)
    (log : List (WatchId × Change)) :
    handlers.notify around.logged.call change (world, log) =
      (handlers.notify around.call change world,
        log ++ (handlers.matching change).map fun entry => (entry.id, change)) := by
  unfold Handlers.notify
  induction handlers.matching change generalizing world log with
  | nil => simp
  | cons entry rest inductionHypothesis =>
      have step : around.logged.call entry change (world, log) =
          (around.call entry change world, log ++ [(entry.id, change)]) := rfl
      rw [List.foldl_cons, List.foldl_cons, step, inductionHypothesis]
      simp

theorem turn_logged_of_next?_some {world : ω} {item : StreamItem}
    (next : around.next? world = some item) (log : List (WatchId × Change)) :
    around.logged.turn (world, log) =
      around.logged.absorb item
        (around.replace
          { around.informer world with inbox := (around.informer world).inbox.tail } world,
          log) :=
  @turn_of_next?_some _ _ around.logged (world, log) item next

/-- A turn that takes in nothing tells nothing. -/
theorem turn_logged_of_next?_none {world : ω} (nothing : around.next? world = none)
    (log : List (WatchId × Change)) :
    around.logged.turn (world, log) = (around.turn world, log) := by
  by_cases running : (around.informer world).running = true
  · by_cases cancelled : around.isCancelled world = true
    · simp [turn, running, cancelled]
    · cases inbox : (around.informer world).inbox with
      | nil =>
          by_cases ended : (around.informer world).ended = true
          · simp [turn, running, cancelled, inbox, ended]
          · simp [turn, running, cancelled, inbox, ended]
      | cons item rest => simp [next?, running, cancelled, inbox] at nothing
  · simp [turn, running]

/-- Whatever a notification or a delivery logs is logged under the number of a registration that
was there at that moment. What holds of every world on the way is said by `sound`. -/
theorem mem_deliver_logged (sound : ω → Prop) (numbered : WatchId → Prop)
    (call : ∀ entry change world, sound world → sound (around.call entry change world))
    (registered : ∀ world, sound world →
      ∀ entry ∈ (around.informer world).handlers.subscriptions, numbered entry.id)
    (changes : List Change) (world : ω) (log : List (WatchId × Change)) (soundWorld : sound world)
    (before : ∀ entry ∈ log, numbered entry.1) :
    ∀ entry ∈ (around.logged.deliver changes (world, log)).2, numbered entry.1 := by
  induction changes generalizing world log with
  | nil => exact before
  | cons change rest inductionHypothesis =>
      rw [deliver, isCancelled_logged, informer_logged, notify_logged]
      split
      · exact before
      · refine inductionHypothesis _ _ ?_ ?_
        · exact around.notify_keeps (fun first second => sound first → sound second)
            (fun _ => id) (fun left right => right ∘ left) call _ change world soundWorld
        · intro entry member
          rcases List.mem_append.1 member with logged | isNew
          · exact before entry logged
          · obtain ⟨subscription, matching, rfl⟩ := List.mem_map.1 isNew
            exact registered world soundWorld subscription (List.mem_filter.1 matching).1

/-- Nothing is heard under a number that the log does not bear. -/
theorem heardBy_eq_nil {id : WatchId} {log : List (WatchId × Change)}
    (others : ∀ entry ∈ log, entry.1 ≠ id) : heardBy id log = [] := by
  unfold heardBy
  rw [List.filter_eq_nil_iff.2 fun entry member => by simpa using others entry member]
  rfl

/-! ## What a registration hears -/

/-- No two registrations bear one number. -/
theorem filter_id_eq {subscriptions : List (Subscription η)}
    (distinct : (subscriptions.map Subscription.id).Nodup)
    {subscription : Subscription η} (member : subscription ∈ subscriptions) :
    (subscriptions.filter fun entry => entry.id = subscription.id) = [subscription] := by
  induction subscriptions with
  | nil => exact absurd member List.not_mem_nil
  | cons first rest inductionHypothesis =>
      obtain ⟨firstNew, restDistinct⟩ := List.nodup_cons.1 distinct
      rcases List.mem_cons.1 member with isFirst | inRest
      · subst isFirst
        have noneLeft : (rest.filter fun entry => entry.id = subscription.id) = [] := by
          refine List.filter_eq_nil_iff.2 fun entry inRest same => firstNew ?_
          rw [← of_decide_eq_true same]
          exact List.mem_map_of_mem inRest
        simp [noneLeft]
      · have different : first.id ≠ subscription.id := by
          intro same
          rw [same] at firstNew
          exact firstNew (List.mem_map_of_mem inRest)
        rw [List.filter_cons_of_neg (by simpa using different)]
        exact inductionHypothesis restDistinct inRest

/-- Of the registrations that are told about a change, the one with a given number is told once,
if its key fits. -/
theorem heardBy_matching {handlers : Handlers η}
    (distinct : (handlers.subscriptions.map Subscription.id).Nodup)
    {subscription : Subscription η} (member : subscription ∈ handlers.subscriptions)
    (change : Change) :
    heardBy subscription.id
        ((handlers.matching change).map fun entry => (entry.id, change)) =
      [change].filter fun change => subscription.key.isMatch change.object := by
  have own : ((handlers.matching change).filter fun entry => entry.id = subscription.id) =
      [subscription].filter fun entry => entry.key.isMatch change.object := by
    rw [← filter_id_eq distinct member, Handlers.matching, List.filter_filter,
      List.filter_filter]
    simp only [Bool.and_comm]
  have swapped : heardBy subscription.id
        ((handlers.matching change).map fun entry => (entry.id, change)) =
      ((handlers.matching change).filter fun entry => entry.id = subscription.id).map
        fun _ => change := by
    simp [heardBy, List.filter_map, Function.comp_def]
  rw [swapped, own]
  by_cases fits : subscription.key.isMatch change.object = true
  · simp [fits]
  · simp [fits]

/-- A registration that lasts through a delivery, while the token is not cancelled, hears every
change that fits its key, once and in order. What has to last is said by `lasts`, and what holds of
every world on the way by `sound`. -/
theorem heardBy_deliver (sound lasts : ω → Prop) {subscription : Subscription η}
    (call : ∀ entry change world, sound world →
      sound (around.call entry change world) ∧
        (lasts (around.call entry change world) → lasts world))
    (distinct : ∀ world, sound world →
      ((around.informer world).handlers.subscriptions.map Subscription.id).Nodup)
    (member : ∀ world, lasts world →
      subscription ∈ (around.informer world).handlers.subscriptions)
    (going : ∀ world, lasts world → around.isCancelled world = false)
    (changes : List Change) (world : ω) (log : List (WatchId × Change))
    (soundWorld : sound world) (lastsEnd : lasts (around.deliver changes world)) :
    heardBy subscription.id (around.logged.deliver changes (world, log)).2 =
      heardBy subscription.id log ++
        changes.filter fun change => subscription.key.isMatch change.object := by
  -- What lasts to the end of a delivery lasted at every change on the way.
  let keeps (first second : ω) : Prop :=
    sound first → sound second ∧ (lasts second → lasts first)
  have keepsRefl : ∀ world, keeps world world := fun _ soundFirst => ⟨soundFirst, id⟩
  have keepsTrans : ∀ {first second third}, keeps first second → keeps second third →
      keeps first third := by
    intro first second third left right soundFirst
    obtain ⟨soundSecond, backLeft⟩ := left soundFirst
    obtain ⟨soundThird, backRight⟩ := right soundSecond
    exact ⟨soundThird, backLeft ∘ backRight⟩
  induction changes generalizing world log with
  | nil => simp [deliver]
  | cons change rest inductionHypothesis =>
      have lastsWorld : lasts world :=
        (around.deliver_keeps keeps keepsRefl keepsTrans call _ world soundWorld).2 lastsEnd
      have soundNext :=
        (around.notify_keeps keeps keepsRefl keepsTrans call (around.informer world).handlers
          change world soundWorld).1
      have restLasts : lasts (around.deliver rest
          ((around.informer world).handlers.notify around.call change world)) := by
        simpa [deliver, going world lastsWorld] using lastsEnd
      have firstHeard := heardBy_matching (distinct world soundWorld)
        (member world lastsWorld) change
      have restHeard := inductionHypothesis _
        (log ++ ((around.informer world).handlers.matching change).map
          fun entry => (entry.id, change)) soundNext restLasts
      rw [deliver, isCancelled_logged, going world lastsWorld, informer_logged, notify_logged]
      simp only [Bool.false_eq_true, if_false]
      rw [restHeard, heardBy_append, firstHeard, List.append_assoc, ← List.filter_append]
      rfl

end ClusterCache.Surroundings
