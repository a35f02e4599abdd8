import ClusterCache.Proofs.Replica.Following
import ClusterCache.Proofs.System.Requests
import ClusterCache.Proofs.System.Reset
import ClusterCache.Proofs.System.Views

/-!
# Listing, then watching

A caller lists a key and then watches it, and follows from the list on what the listener is told.
Nothing is told of what the informer takes in between the list and the registration. Main statement:
an identity is followed correctly exactly if a change of it has been told since the registration, or
the version that was listed still fitted at the registration.
-/

namespace ClusterCache.System

variable {system : System} {id : InformerId} {subscription : Subscription Listener}
  {items : List StreamItem} {move : Move} {call : CallId} {operation : Operation} {key : Key}
  {type : ResourceType}

/-! ## Following along a run -/

/-- What follows the versions that fit follows them through a move, except where an object was
lost. -/
theorem follow_told (issued : system.store.Issued id subscription)
    (owner : subscription.id.owner = id)
    (listens : (system.apply move).store.Listens id subscription)
    (mirrors : (system.store.informers.informer id).replica.Mirrors items)
    (versioned : Versioned (items ++ taken id system move))
    {view : Versions} {past : List Change}
    (agrees : ∀ identity, ¬ subscription.key.Lost past identity →
      view identity = subscription.key.versions (system.objects id) identity)
    {identity : ObjectId}
    (kept : ¬ subscription.key.Lost (past ++ changed id system move) identity) :
    (told subscription.id system move).foldl Versions.replay view identity =
      subscription.key.versions ((system.apply move).objects id) identity := by
  rw [told_eq_filter issued owner listens]
  rcases taken_cases system id move with nothing | ⟨item, rfl, next⟩
  · rw [changed, nothing, List.flatMap_nil] at kept ⊢
    rw [List.append_nil] at kept
    rw [objects_of_taken_nil nothing]
    exact agrees identity kept
  · exact (announce_changed mirrors next).follow (eq_of_version_eq mirrors versioned) agrees kept

theorem followed_eq {start : System} (issued : start.store.Issued id subscription)
    (owner : subscription.id.owner = id)
    (mirrors : ∀ moves, ((start.run moves).store.informers.informer id).replica.Mirrors
      (items ++ start.consumed id moves))
    {later : List Move} (lasting : (start.run later).store.Listens id subscription)
    (versioned : Versioned (items ++ start.consumed id later)) {first rest : List Move}
    (split : later = first ++ rest) {identity : ObjectId}
    (kept : ¬ subscription.key.Lost (start.changes id first) identity) :
    (start.heard subscription.id first).foldl Versions.replay
        (subscription.key.versions (start.objects id)) identity =
      subscription.key.versions ((start.run first).objects id) identity := by
  induction first using List.reverseRecOn generalizing rest identity with
  | nil => rfl
  | append_singleton first move inductionHypothesis =>
      have splitBefore : later = first ++ move :: rest := by simpa using split
      obtain ⟨issuedThen, _⟩ := listens_on_the_way issued lasting splitBefore
      obtain ⟨_, listens⟩ := listens_on_the_way issued lasting split
      rw [run_concat] at listens ⊢
      rw [changes, collect_concat] at kept
      rw [heard, collect_concat, List.foldl_append]
      exact follow_told issuedThen owner listens (mirrors first)
        (versioned_on_the_way versioned split)
        (fun other keptBefore => inductionHypothesis splitBefore keptBefore) kept

theorem consumed_from (start : System) (id : InformerId) (items : List StreamItem)
    (first second : List Move) :
    (items ++ start.consumed id first) ++ (start.run first).consumed id second =
      items ++ start.consumed id (first ++ second) := by
  rw [consumed_append, List.append_assoc]

theorem mirrors_from {start : System}
    (mirrors : ∀ moves, ((start.run moves).store.informers.informer id).replica.Mirrors
      (items ++ start.consumed id moves)) (first moves : List Move) :
    (((start.run first).run moves).store.informers.informer id).replica.Mirrors
      ((items ++ start.consumed id first) ++ (start.run first).consumed id moves) := by
  rw [consumed_from, ← run_append]
  exact mirrors (first ++ moves)

/-- The version that fits under an identity stays as long as no change concerns the identity. -/
theorem versions_of_unchanged {start : System}
    (mirrors : ∀ moves, ((start.run moves).store.informers.informer id).replica.Mirrors
      (items ++ start.consumed id moves))
    {moves : List Move} (versioned : Versioned (items ++ start.consumed id moves))
    {identity : ObjectId} (others : ∀ change ∈ start.changes id moves, change.id ≠ identity) :
    key.versions ((start.run moves).objects id) identity =
      key.versions (start.objects id) identity := by
  induction moves using List.reverseRecOn with
  | nil => rfl
  | append_singleton moves move inductionHypothesis =>
      rw [changes, collect_concat] at others
      have othersBefore : ∀ change ∈ start.changes id moves, change.id ≠ identity :=
        fun change member => others change (List.mem_append_left _ member)
      have othersLast : ∀ change ∈ changed id (start.run moves) move, change.id ≠ identity :=
        fun change member => others change (List.mem_append_right _ member)
      have versionedLast := versioned_on_the_way versioned (List.append_nil _).symm
      rw [run_concat, ← inductionHypothesis (versionedLast.of_append _) othersBefore]
      rcases taken_cases (start.run moves) id move with nothing | ⟨item, rfl, next⟩
      · rw [objects_of_taken_nil nothing]
      · exact (announce_changed (mirrors moves) next).versions_of_ne
          (eq_of_version_eq (mirrors moves) versionedLast) othersLast

/-! ## Being served -/

/-- By the move the operation is served as a resource of the type, and returns the outcome. -/
def Obtains (system : System) (move : Move) (operation : Operation) (type : ResourceType)
    (outcome : Outcome) : Prop :=
  ∃ call resource, move = .answer call (.resource (.ok resource)) ∧
    .ofResource resource = type ∧ system.Returns move call operation (.ok outcome)

theorem mapped_of_returns {resource : ApiResource} {outcome : Outcome}
    (returns : system.Returns (.answer call (.resource (.ok resource))) call operation
      (.ok outcome))
    (served : outcome.isServed = true) :
    (system.apply (.answer call (.resource (.ok resource)))).store =
        (system.store.mapped call operation resource).1 ∧
      (system.store.mapped call operation resource).2 = .finished (.ok outcome) := by
  have own := returns.isMoveOf
  obtain ⟨current, called, goes⟩ := goes_apply own
  rw [returns.1] at called
  cases called
  generalize stands : system.stood call = stage at goes
  cases goes with
  | stays _ _ =>
      obtain ⟨earlier, before⟩ := called_of_stood stands nofun
      obtain rfl : operation = earlier := operation_eq before returns.1
      exact absurd before returns.2
  | ends _ result unserved =>
      rw [unserved outcome rfl] at served
      cases served
  | swaps => cases served
  | serves _ client request mapping other answered =>
      cases answered
      subst mapping
      obtain ⟨earlier, before⟩ := called_of_stood stands nofun
      obtain rfl : operation = earlier := operation_eq before returns.1
      obtain ⟨stored, calledAfter⟩ := apply_of_isMoveOf before own
      rw [returns.1] at calledAfter
      exact ⟨stored, (congrArg Call.stage (Option.some.inj calledAfter)).symm⟩

/-- A list is what the informer for the resource holds. -/
theorem Obtains.listed {objects : List Object} {loading : Bool}
    (obtains : system.Obtains move (.list key) type (.listed objects loading)) :
    ∃ resource, .ofResource resource = type ∧
      (system.apply move).store.informers = (system.store.informers.obtain resource).1 ∧
      objects = (((system.apply move).store.informers.informer
        (system.store.informers.obtain resource).2.1).replica.list key) := by
  obtain ⟨call, resource, rfl, sameType, returns⟩ := obtains
  obtain ⟨stored, ended⟩ := mapped_of_returns returns rfl
  have informers : (system.apply (.answer call (.resource (.ok resource)))).store.informers =
      (system.store.serve key resource).1.informers := by
    rw [stored]
    exact congrArg Holdings.informers
      (Store.holdings_mapped system.store call (.list key) resource)
  refine ⟨resource, sameType, informers.trans (Store.informers_serve _ key resource), ?_⟩
  rw [informers]
  cases ended
  rfl

/-- A watch registers the listener on the informer for the resource. -/
theorem Obtains.watching {listener : Listener} {under : ResourceType} {watch : WatchId}
    (obtains : system.Obtains move (.watch key listener under) type (.watching watch))
    (owned : system.store.informers.Owned) :
    ∃ resource, .ofResource resource = type ∧
      ⟨watch, key, listener⟩ ∈ ((system.apply move).store.informers.informer
        (system.store.informers.obtain resource).2.1).handlers.subscriptions := by
  obtain ⟨call, resource, rfl, sameType, returns⟩ := obtains
  obtain ⟨stored, ended⟩ := mapped_of_returns returns rfl
  have informers : (system.apply (.answer call (.resource (.ok resource)))).store.informers =
      ((system.store.serve key resource).1.subscribe (system.store.serve key resource).2 under key
        listener).1.informers := by
    rw [stored]
    exact congrArg Holdings.informers
      (Store.holdings_mapped system.store call (.watch key listener under) resource)
  have used : (system.store.informers.obtain resource).2.1 <
      (system.store.serve key resource).1.informers.started.length := by
    rw [Store.informers_serve]
    exact Store.obtained_lt owned resource
  refine ⟨resource, sameType, ?_⟩
  rw [informers]
  cases ended
  change _ ∈ (((system.store.serve key resource).1.informers.modify
    (system.store.informers.obtain resource).2.1 _).informer _).handlers.subscriptions
  rw [Informers.informer_modify_self used]
  exact List.mem_append_right _ (List.mem_singleton.2 rfl)

/-- Who was current for a type and goes on is the informer for the resources of the type. -/
theorem obtain_of_current (owned : system.store.informers.Owned)
    (current : system.store.informers.find? type = some id) {moves : List Move}
    (going : (system.run moves).store.informers.isStopped id = false) {resource : ApiResource}
    (sameType : .ofResource resource = type) :
    (system.run moves).store.informers.obtain resource =
      ((system.run moves).store.informers, id, false) := by
  have persists := persists_run system moves
  have used := owned.used current
  refine (owned_run owned moves).obtain_of_live (Nat.lt_of_lt_of_le used persists.started) going ?_
  rw [persists.type id used, owned.type current, sameType]

/-! ## Listing, then watching -/

/-- From the system on a key is listed, watched, and listed again, each time as a resource of one
type. The informer that serves the list is not stopped before the watch, and the listener is still
registered in the end. -/
structure ListThenWatch (system : System) (key : Key) where
  type : ResourceType
  listing : Move
  objects : List Object
  loading : Bool
  lists : system.Obtains listing (.list key) type (.listed objects loading)
  between : List Move
  kept : ∀ id, (system.apply listing).store.informers.find? type = some id →
    ((system.apply listing).run between).store.informers.isStopped id = false
  watching : Move
  listener : Listener
  under : ResourceType
  watch : WatchId
  watches : ((system.apply listing).run between).Obtains watching (.watch key listener under) type
    (.watching watch)
  later : List Move
  lasting : ((system.apply listing).run (between ++ watching :: later)).store.Listens watch.owner
    ⟨watch, key, listener⟩
  relisting : Move
  fresh : List Object
  reloading : Bool
  relists : ((system.apply listing).run (between ++ watching :: later)).Obtains relisting
    (.list key) type (.listed fresh reloading)

namespace ListThenWatch

variable (visit : ListThenWatch system key)

/-- The moves from the list to the end. -/
def moves : List Move := visit.listing :: (visit.between ++ visit.watching :: visit.later)

/-- When the key has been listed. -/
def listed : System := system.apply visit.listing

/-- When the listener has been registered. -/
def registered : System := (visit.listed.run visit.between).apply visit.watching

/-- What the items change that the informer takes in between the list and the registration. -/
def missed : List Change := visit.listed.changes visit.watch.owner visit.between

/-- What the items change that the informer takes in after the registration. -/
def changed : List Change := visit.registered.changes visit.watch.owner visit.later

def told : List Change := visit.registered.heard visit.watch visit.later

/-- The versions that fit when the listener is registered. -/
def present : Versions := key.versions (visit.registered.objects visit.watch.owner)

/-- The versions that the caller gets by following what is told from the list on. -/
def followed : Versions := visit.told.foldl Versions.replay (Versions.listed visit.objects)

variable {visit}

theorem run_later :
    visit.registered.run visit.later =
      visit.listed.run (visit.between ++ visit.watching :: visit.later) := by
  rw [run_append, run_cons, registered]

theorem numbered_registered (numbered : system.store.informers.Numbered) :
    visit.registered.store.informers.Numbered := by
  have numberedListed := (persists_apply system visit.listing).numbered numbered
  have numberedThen := (persists_run visit.listed visit.between).numbered numberedListed
  exact (persists_apply _ visit.watching).numbered numberedThen

/-- One informer serves both lists and the watch. -/
theorem served (owned : system.store.informers.Owned)
    (numbered : system.store.informers.Numbered) :
    visit.objects = (visit.listed.store.informers.informer
        visit.watch.owner).replica.list key ∧
      ⟨visit.watch, key, visit.listener⟩ ∈
        (visit.registered.store.informers.informer visit.watch.owner).handlers.subscriptions ∧
      visit.fresh = ((visit.registered.run visit.later).store.informers.informer
        visit.watch.owner).replica.list key := by
  obtain ⟨resource, sameType, informers, objects⟩ := visit.lists.listed
  have ownedListed := owned_apply owned visit.listing
  have current : visit.listed.store.informers.find? visit.type =
      some (system.store.informers.obtain resource).2.1 := by
    rw [listed, informers, ← sameType]
    exact Informers.find?_obtain _ resource
  -- The watch finds the informer of the list, so the listener is numbered under it.
  obtain ⟨watchedAs, sameTypeThen, registered⟩ :=
    visit.watches.watching (owned_run ownedListed visit.between)
  rw [obtain_of_current ownedListed current (visit.kept _ current) sameTypeThen] at registered
  have owner : visit.watch.owner = (system.store.informers.obtain resource).2.1 :=
    (Store.issued_of_mem (visit.numbered_registered numbered) registered).2
  rw [← owner] at current registered objects
  obtain ⟨relistedAs, sameTypeLast, informersLast, fresh⟩ := visit.relists.listed
  have foundLast := obtain_of_current ownedListed current visit.lasting.going sameTypeLast
  rw [informersLast, foundLast] at fresh
  refine ⟨objects, registered, ?_⟩
  rw [run_later]
  exact fresh

/-- Registering the listener takes nothing in. -/
theorem present_eq :
    visit.present =
      key.versions ((visit.listed.run visit.between).objects visit.watch.owner) := by
  obtain ⟨call, resource, answers, _⟩ := visit.watches
  have nothing : taken visit.watch.owner (visit.listed.run visit.between) visit.watching = [] := by
    rw [answers]
    rfl
  rw [present, registered, objects_of_taken_nil nothing]

theorem consumed_registered (items : List StreamItem) (id : InformerId) :
    (items ++ visit.listed.consumed id (visit.between ++ [visit.watching])) ++
        visit.registered.consumed id visit.later =
      items ++ visit.listed.consumed id (visit.between ++ visit.watching :: visit.later) := by
  rw [registered, ← run_concat, consumed_from]
  simp

section Following

variable {items : List StreamItem} (owned : system.store.informers.Owned)
  (numbered : system.store.informers.Numbered)
  (mirrors : ∀ moves, ((visit.listed.run moves).store.informers.informer
    visit.watch.owner).replica.Mirrors (items ++ visit.listed.consumed visit.watch.owner moves))

include mirrors

theorem mirrors_registered (moves : List Move) :
    ((visit.registered.run moves).store.informers.informer visit.watch.owner).replica.Mirrors
      ((items ++ visit.listed.consumed visit.watch.owner (visit.between ++ [visit.watching])) ++
        visit.registered.consumed visit.watch.owner moves) := by
  rw [registered, ← run_concat]
  exact mirrors_from mirrors _ moves

/-- Without labels to look at, and with names that identify, nothing is lost. -/
theorem not_lost (unselective : key.IsUnselective)
    (named : Named (items ++ visit.listed.consumed visit.watch.owner
      (visit.between ++ visit.watching :: visit.later)))
    (id : ObjectId) : ¬ key.Lost visit.changed id := by
  rw [← consumed_registered] at named
  exact Key.not_lost_of_not_loses (fun change member =>
    not_loses_of_mem_changes (mirrors_registered mirrors) unselective named member) id

include owned numbered

theorem listed_objects :
    Versions.listed visit.objects = key.versions (visit.listed.objects visit.watch.owner) := by
  rw [(visit.served owned numbered).1]
  exact Replica.listed_list (mirrors []).filed key

theorem listed_fresh :
    Versions.listed visit.fresh =
      key.versions ((visit.registered.run visit.later).objects visit.watch.owner) := by
  rw [(visit.served owned numbered).2.2, run_later]
  exact Replica.listed_list (mirrors _).filed key

/-- What was listed still fits under an identity that nothing missed concerns. -/
theorem listed_eq_present
    (versioned : Versioned (items ++ visit.listed.consumed visit.watch.owner visit.between))
    {id : ObjectId} (others : ∀ change ∈ visit.missed, change.id ≠ id) :
    Versions.listed visit.objects id = visit.present id := by
  rw [listed_objects owned numbered mirrors, present_eq]
  exact (versions_of_unchanged mirrors versioned others).symm

/-- Who knows what fits when the listener is registered follows it to the end. -/
theorem follow_present
    (versioned : Versioned (items ++ visit.listed.consumed visit.watch.owner
      (visit.between ++ visit.watching :: visit.later)))
    {id : ObjectId} (kept : ¬ key.Lost visit.changed id) :
    visit.told.foldl Versions.replay visit.present id = Versions.listed visit.fresh id := by
  obtain ⟨issued, _⟩ := Store.issued_of_mem (visit.numbered_registered numbered)
    (visit.served owned numbered).2.1
  have lasting : (visit.registered.run visit.later).store.Listens visit.watch.owner
      ⟨visit.watch, key, visit.listener⟩ := by
    rw [run_later]
    exact visit.lasting
  rw [← consumed_registered] at versioned
  rw [listed_fresh owned numbered mirrors]
  exact followed_eq issued rfl (mirrors_registered mirrors) lasting versioned
    (List.append_nil _).symm kept

/-- What is told decides the identities that it names; the others stay as they were listed. -/
theorem followed_iff
    (versioned : Versioned (items ++ visit.listed.consumed visit.watch.owner
      (visit.between ++ visit.watching :: visit.later)))
    {id : ObjectId} (kept : ¬ key.Lost visit.changed id) :
    visit.followed id = Versions.listed visit.fresh id ↔
      (∃ change ∈ visit.told, change.id = id) ∨
        Versions.listed visit.objects id = visit.present id := by
  rw [followed, ← follow_present owned numbered mirrors versioned kept]
  by_cases named : ∃ change ∈ visit.told, change.id = id
  · exact iff_of_true (Versions.foldl_replay_congr _ _ named) (Or.inl named)
  · have others : ∀ change ∈ visit.told, change.id ≠ id := fun change member same =>
      named ⟨change, member, same⟩
    rw [Versions.foldl_replay_of_ne others, Versions.foldl_replay_of_ne others]
    exact (or_iff_right named).symm

end Following

end ListThenWatch

/-- Unless an update took the object out of the key, a caller follows an identity correctly from a
list on exactly if a change of it has been told, or the version that was listed still fitted when
the listener was registered; and it still fitted if nothing that was missed concerns the identity.
-/
theorem list_then_watch (config : StoreConfig) (client : ClientId) (moves : List Move) (key : Key)
    (visit : ListThenWatch ((start config client).run moves) key)
    (versioned : Versioned
      ((start config client).consumed visit.watch.owner (moves ++ visit.moves))) :
    (∀ id, ¬ key.Lost visit.changed id →
      (visit.followed id = Versions.listed visit.fresh id ↔
        (∃ change ∈ visit.told, change.id = id) ∨
          Versions.listed visit.objects id = visit.present id)) ∧
      (∀ id, (∀ change ∈ visit.missed, change.id ≠ id) →
        Versions.listed visit.objects id = visit.present id) ∧
      (key.IsUnselective →
        Named ((start config client).consumed visit.watch.owner (moves ++ visit.moves)) →
        (∀ change ∈ visit.missed, ∃ later ∈ visit.told, later.id = change.id) →
        visit.followed = Versions.listed visit.fresh) := by
  have owned : ((start config client).run moves).store.informers.Owned :=
    owned_run (Informers.owned_empty client config.ns) moves
  have numbered := numbered_run config client moves
  have listed : (start config client).run (moves ++ [visit.listing]) = visit.listed :=
    run_concat _ _ _
  have whole : ∀ moves, (((start config client).run moves).store.informers.informer
      visit.watch.owner).replica.Mirrors
        ([] ++ (start config client).consumed visit.watch.owner moves) :=
    mirrors_run config client visit.watch.owner
  have mirrors := mirrors_from whole (moves ++ [visit.listing])
  rw [listed, List.nil_append] at mirrors
  have regrouped : (start config client).consumed visit.watch.owner (moves ++ visit.moves) =
      (start config client).consumed visit.watch.owner (moves ++ [visit.listing]) ++
        visit.listed.consumed visit.watch.owner
          (visit.between ++ visit.watching :: visit.later) := by
    rw [← listed, ← consumed_append]
    simp [ListThenWatch.moves]
  rw [regrouped] at versioned ⊢
  have versionedThen : Versioned
      ((start config client).consumed visit.watch.owner (moves ++ [visit.listing]) ++
        visit.listed.consumed visit.watch.owner visit.between) := by
    rw [consumed_append visit.listed, ← List.append_assoc] at versioned
    exact versioned.of_append _
  have present : ∀ id, (∀ change ∈ visit.missed, change.id ≠ id) →
      Versions.listed visit.objects id = visit.present id := fun id others =>
    ListThenWatch.listed_eq_present owned numbered mirrors versionedThen others
  refine ⟨fun id kept => ListThenWatch.followed_iff owned numbered mirrors versioned kept,
    present, ?_⟩
  intro unselective named heard
  funext id
  have kept := ListThenWatch.not_lost mirrors unselective named id
  refine (ListThenWatch.followed_iff owned numbered mirrors versioned kept).2 ?_
  by_cases missed : ∃ change ∈ visit.missed, change.id = id
  · obtain ⟨change, member, rfl⟩ := missed
    exact Or.inl (heard change member)
  · exact Or.inr (present id fun change member same => missed ⟨change, member, same⟩)

/-! The pods of a namespace are listed, and watched with a review that takes its time. -/

def defaultKey : Key := .ofScope "default" "v1" "Pod"

def podAnswer : Answer := .resource (.ok (.served "" "v1" "Pod" "pods"))

/-- A list starts the informer, which takes an empty list in; a second list is about to return. -/
def podsReady : List Move :=
  [.presetDecision ⟨"default", "", "pods", Verb.list.text⟩ true,
    .begin (.list defaultKey), .answer 0 podAnswer, .answer 0 podAnswer,
    .send 0 (.event .init), .send 0 (.event .initDone), .turn 0, .turn 0, .wake 0,
    .begin (.list defaultKey), .answer 1 podAnswer]

/-- The informer takes an object in. -/
def appears (object : Object) : List Move := [.send 0 (.event (.apply object)), .turn 0]

/-- The watch is reviewed while something else happens. -/
def reviewed (meanwhile : List Move) : List Move :=
  [.begin (.watch defaultKey ⟨"pods", []⟩ ⟨"", "v1", "pods"⟩), .answer 2 podAnswer] ++ meanwhile ++
    [.answer 2 (.review (.ok true))]

def relisted : List Move := [.begin (.list defaultKey), .answer 3 podAnswer]

/-- What is listed of the objects. -/
def podsOf (objects : Objects) : List Object := (⟨objects, none, true⟩ : Replica).list defaultKey

theorem podsOf_single (id : ObjectId) (object : Object) :
    podsOf ⟨[(id, object)]⟩ = [object].filter defaultKey.isMatch := by
  cases fits : defaultKey.isMatch object <;> simp [podsOf, Replica.list, fits]

/-- A pod appears during the review and changes again after it. -/
def changedAgain : ListThenWatch ((start .standard 0).run podsReady) defaultKey where
  type := ⟨"", "v1", "pods"⟩
  listing := .answer 1 podAnswer
  objects := podsOf Table.empty
  loading := false
  lists := ⟨1, _, rfl, rfl, rfl, nofun⟩
  between := reviewed (appears (labelledPod "1" "web"))
  kept := by
    rintro _ ⟨⟩
    rfl
  watching := .answer 2 podAnswer
  listener := ⟨"pods", []⟩
  under := ⟨"", "v1", "pods"⟩
  watch := ⟨0, 0⟩
  watches := ⟨2, _, rfl, rfl, rfl, nofun⟩
  later := appears (labelledPod "2" "web") ++ relisted
  lasting := ⟨List.mem_singleton.2 rfl, rfl⟩
  relisting := .answer 3 podAnswer
  fresh := podsOf ⟨[(⟨"default", "a"⟩, labelledPod "2" "web")]⟩
  reloading := false
  relists := ⟨3, _, rfl, rfl, rfl, nofun⟩

theorem list_then_watch_changed_again :
    Versioned ((start .standard 0).consumed 0 (podsReady ++ changedAgain.moves)) ∧
      changedAgain.missed = [.added (labelledPod "1" "web")] ∧
      changedAgain.told = [.updated (labelledPod "1" "web") (labelledPod "2" "web")] ∧
      changedAgain.followed = Versions.listed changedAgain.fresh := by
  have carried : ((start .standard 0).consumed 0
      (podsReady ++ changedAgain.moves)).filterMap StreamItem.carried? =
        [labelledPod "1" "web", labelledPod "2" "web"] := rfl
  have versioned := versioned_of_carried carried (by decide)
  have named : Named ((start .standard 0).consumed 0 (podsReady ++ changedAgain.moves)) := by
    intro object member
    rw [carried] at member
    simp only [List.mem_cons, List.not_mem_nil, or_false] at member
    rcases member with rfl | rfl <;> exact ⟨by decide, by decide⟩
  have missed : changedAgain.missed = [.added (labelledPod "1" "web")] := rfl
  have told :
      changedAgain.told = [.updated (labelledPod "1" "web") (labelledPod "2" "web")] := rfl
  have unselective : defaultKey.IsUnselective := nofun
  refine ⟨versioned, missed, told, ?_⟩
  refine (list_then_watch .standard 0 podsReady defaultKey changedAgain versioned).2.2 unselective
    named ?_
  intro change member
  rw [missed] at member
  rw [List.mem_singleton.1 member, told]
  exact ⟨_, List.mem_singleton.2 rfl, rfl⟩

/-- The pod that appears during the review does not change again. -/
def unchanged : ListThenWatch ((start .standard 0).run podsReady) defaultKey :=
  { changedAgain with
    later := relisted
    lasting := ⟨List.mem_singleton.2 rfl, rfl⟩
    fresh := podsOf ⟨[(⟨"default", "a"⟩, labelledPod "1" "web")]⟩
    relists := ⟨3, _, rfl, rfl, rfl, nofun⟩ }

/-- A pod without a namespace, or with the empty one. -/
def homelessPod (version : String) (ns : Option String) : Object :=
  ⟨none, { (default : Metadata) with
      name := some "a"
      ns
      resourceVersion := some version }, Dictionary.empty⟩

/-- Nothing happens during the review; then a pod without a namespace gets the empty one. -/
def displaced : ListThenWatch ((start .standard 0).run podsReady) defaultKey :=
  { changedAgain with
    between := reviewed []
    kept := by
      rintro _ ⟨⟩
      rfl
    watches := ⟨2, _, rfl, rfl, rfl, nofun⟩
    later := appears (homelessPod "1" none) ++ appears (homelessPod "2" (some "")) ++ relisted
    lasting := ⟨List.mem_singleton.2 rfl, rfl⟩
    fresh := podsOf ⟨[(⟨"", "a"⟩, homelessPod "2" (some ""))]⟩
    relists := ⟨3, _, rfl, rfl, rfl, nofun⟩ }

/-- The pod that appeared during the review is listed and was never told of. The pod that got the
empty namespace is not listed any more, and nobody was told. -/
theorem list_then_watch_misses :
    defaultKey.selector = none ∧
      (unchanged.listed.store.informers.informer 0).replica.synced = true ∧
      (Versioned ((start .standard 0).consumed 0 (podsReady ++ unchanged.moves)) ∧
        (∀ object ∈ ((start .standard 0).consumed 0 (podsReady ++ unchanged.moves)).filterMap
          StreamItem.carried?, object.resourceVersion ≠ none ∧ object.metadata.name ≠ none) ∧
        unchanged.told = [] ∧
        unchanged.followed ⟨"default", "a"⟩ = none ∧
        Versions.listed unchanged.fresh ⟨"default", "a"⟩ = some (some "1")) ∧
      (Versioned ((start .standard 0).consumed 0 (podsReady ++ displaced.moves)) ∧
        (∀ object ∈ ((start .standard 0).consumed 0 (podsReady ++ displaced.moves)).filterMap
          StreamItem.carried?, object.resourceVersion ≠ none ∧ object.metadata.name ≠ none) ∧
        displaced.missed = [] ∧
        displaced.followed ⟨"", "a"⟩ = some (some "1") ∧
        Versions.listed displaced.fresh ⟨"", "a"⟩ = none) := by
  have carried : ((start .standard 0).consumed 0
      (podsReady ++ unchanged.moves)).filterMap StreamItem.carried? = [labelledPod "1" "web"] := rfl
  have carriedDisplaced : ((start .standard 0).consumed 0
      (podsReady ++ displaced.moves)).filterMap StreamItem.carried? =
        [homelessPod "1" none, homelessPod "2" (some "")] := rfl
  have listed : unchanged.fresh = [labelledPod "1" "web"] := podsOf_single _ _
  have unlisted : displaced.fresh = [] := podsOf_single _ _
  have nothing : podsOf Table.empty = [] := by simp [podsOf, Replica.list, Table.empty]
  refine ⟨rfl, rfl, ⟨?_, ?_, rfl, ?_, ?_⟩, versioned_of_carried carriedDisplaced (by decide), ?_,
    rfl, ?_, ?_⟩
  · intro object member other otherMember _ _
    rw [carried] at member otherMember
    rw [List.mem_singleton.1 member, List.mem_singleton.1 otherMember]
  · intro object member
    rw [carried] at member
    rw [List.mem_singleton.1 member]
    exact ⟨by decide, by decide⟩
  · change Versions.listed (podsOf Table.empty) _ = none
    rw [nothing]
    rfl
  · rw [listed]
    rfl
  · intro object member
    rw [carriedDisplaced] at member
    simp only [List.mem_cons, List.not_mem_nil, or_false] at member
    rcases member with rfl | rfl <;> exact ⟨by decide, by decide⟩
  · rfl
  · rw [unlisted]
    rfl

end ClusterCache.System
