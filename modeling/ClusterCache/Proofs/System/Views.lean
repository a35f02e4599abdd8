import ClusterCache.Proofs.Replica.View
import ClusterCache.Proofs.System.Deliveries

/-!
# Views and lists

A listener is told the changes that fit its key, so it can keep the identities that it was told of.
Nobody tells it when an update takes an object out of the key: it is told of objects that fit, and
this one does not any more. Main statement: what a listener has in view is what is listed for its
key and what was lost to it in this way, after every move of every run.
-/

namespace ClusterCache

/-! ## What identifies objects -/

/-- Two objects of one identity and one version are the same. -/
def Versioned (items : List StreamItem) : Prop :=
  ∀ object ∈ items.filterMap StreamItem.carried?,
    ∀ other ∈ items.filterMap StreamItem.carried?,
      object.id = other.id → object.resourceVersion = other.resourceVersion → object = other

/-- The objects have names of their own, and namespaces that are not empty if they have any. -/
def Named (items : List StreamItem) : Prop :=
  ∀ object ∈ items.filterMap StreamItem.carried?,
    object.metadata.name ≠ none ∧ object.metadata.ns ≠ some ""

theorem mem_carried_append {items : List StreamItem} (more : List StreamItem) {object : Object}
    (member : object ∈ items.filterMap StreamItem.carried?) :
    object ∈ (items ++ more).filterMap StreamItem.carried? := by
  rw [List.filterMap_append]
  exact List.mem_append_left _ member

theorem Versioned.of_append {items : List StreamItem} (more : List StreamItem)
    (versioned : Versioned (items ++ more)) : Versioned items :=
  fun object member other otherMember =>
    versioned object (mem_carried_append more member) other (mem_carried_append more otherMember)

/-- Two objects are told apart by different versions. -/
theorem versioned_of_carried {items : List StreamItem} {first second : Object}
    (carried : items.filterMap StreamItem.carried? = [first, second])
    (differ : first.resourceVersion ≠ second.resourceVersion) : Versioned items := by
  intro object member other otherMember _ sameVersion
  rw [carried] at member otherMember
  simp only [List.mem_cons, List.not_mem_nil, or_false] at member otherMember
  rcases member with rfl | rfl <;> rcases otherMember with rfl | rfl
  · rfl
  · exact absurd sameVersion differ
  · exact absurd sameVersion.symm differ
  · rfl

theorem Named.of_append {items : List StreamItem} (more : List StreamItem)
    (named : Named (items ++ more)) : Named items :=
  fun object member => named object (mem_carried_append more member)

/-- The key leaves no object out for its labels. -/
def Key.IsUnselective (key : Key) : Prop :=
  ∀ selector, key.selector = some selector → selector.entries = []

/-- Without labels to look at, a key fits all objects of a name and a namespace or none. -/
theorem Key.IsUnselective.isMatch_congr {key : Key} (unselective : key.IsUnselective)
    {object other : Object} (sameNs : object.metadata.ns = other.metadata.ns)
    (sameName : object.metadata.name = other.metadata.name) :
    key.isMatch object = key.isMatch other := by
  have everything : ∀ candidate : Object,
      (key.selector.all fun selector => selects selector candidate) = true := by
    intro candidate
    cases selection : key.selector with
    | none => rfl
    | some selector => simp [selects, unselective selector selection]
  unfold isMatch
  rw [everything object, everything other, sameNs, sameName]

theorem Object.ns_and_name_of_id {object other : Object} (sameId : object.id = other.id)
    (named : object.metadata.name ≠ none ∧ object.metadata.ns ≠ some "")
    (otherNamed : other.metadata.name ≠ none ∧ other.metadata.ns ≠ some "") :
    object.metadata.ns = other.metadata.ns ∧ object.metadata.name = other.metadata.name := by
  obtain ⟨name, hasName⟩ := Option.ne_none_iff_exists'.1 named.1
  obtain ⟨otherName, otherHasName⟩ := Option.ne_none_iff_exists'.1 otherNamed.1
  obtain ⟨sameNs, sameName⟩ := ObjectId.mk.inj sameId
  constructor
  · cases ns : object.metadata.ns with
    | none =>
        cases otherNs : other.metadata.ns with
        | none => rfl
        | some space =>
            have empty : "" = space := by simpa [nsOrEmpty, ns, otherNs] using sameNs
            exact absurd (empty ▸ otherNs) otherNamed.2
    | some space =>
        cases otherNs : other.metadata.ns with
        | none =>
            have empty : space = "" := by simpa [nsOrEmpty, ns, otherNs] using sameNs
            exact absurd (empty ▸ ns) named.2
        | some otherSpace =>
            have same : space = otherSpace := by simpa [nsOrEmpty, ns, otherNs] using sameNs
            rw [same]
  · have same : name = otherName := by
      simpa [Object.name, hasName, otherHasName] using sameName
    rw [hasName, otherHasName, same]

namespace System

variable {system : System} {id : InformerId} {subscription : Subscription Listener}
  {items : List StreamItem} {move : Move}

/-! ## One move -/

/-- What the items change that an informer takes in along a run. -/
def changes (system : System) (id : InformerId) (moves : List Move) : List Change :=
  system.collect (changed id) moves

def listedIds (system : System) (id : InformerId) (key : Key) : Set ObjectId :=
  (system.store.informers.informer id).replica.listedIds key

/-- The identities that a listener has in view after a run, if it began with those listed. -/
def seen (system : System) (id : InformerId) (subscription : Subscription Listener)
    (moves : List Move) : Set ObjectId :=
  (system.heard subscription.id moves).foldl Change.see (system.listedIds id subscription.key)

theorem told_eq_filter (issued : system.store.Issued id subscription)
    (owner : subscription.id.owner = id)
    (listens : (system.apply move).store.Listens id subscription) :
    told subscription.id system move =
      (changed id system move).filter fun change => subscription.key.isMatch change.object := by
  rcases taken_cases system id move with nothing | ⟨item, rfl, next⟩
  · rw [told_of_taken_nil issued.numbered owner nothing, changed, nothing]
    rfl
  · exact told_turn issued next listens

/-- An object that keeps its version by a move is the same, since both were brought by an item. -/
theorem eq_of_version_eq
    (mirrors : (system.store.informers.informer id).replica.Mirrors items)
    (versioned : Versioned (items ++ taken id system move)) {identity : ObjectId}
    {old new : Object} (storedBefore : (system.objects id).get? identity = some old)
    (stored : ((system.apply move).objects id).get? identity = some new)
    (sameVersion : old.resourceVersion = new.resourceVersion) : old = new := by
  have later := mirrors_apply mirrors move
  refine versioned old (mem_carried_append _ (mirrors.carried storedBefore)) new
    (later.carried stored) ?_ sameVersion
  exact (mirrors.filed.own storedBefore).trans (later.filed.own stored).symm

/-- What is in view is what fits and what was lost: this holds after a move if it held before. -/
theorem see_told (issued : system.store.Issued id subscription)
    (owner : subscription.id.owner = id)
    (listens : (system.apply move).store.Listens id subscription)
    (mirrors : (system.store.informers.informer id).replica.Mirrors items)
    (versioned : Versioned (items ++ taken id system move))
    {view : Set ObjectId} {past : List Change}
    (agrees : view = subscription.key.fitting (system.objects id) ∪
      {object | subscription.key.Lost past object}) :
    (told subscription.id system move).foldl Change.see view =
      subscription.key.fitting ((system.apply move).objects id) ∪
        {object | subscription.key.Lost (past ++ changed id system move) object} := by
  rw [told_eq_filter issued owner listens]
  rcases taken_cases system id move with nothing | ⟨item, rfl, next⟩
  · rw [changed, nothing, objects_of_taken_nil nothing, List.flatMap_nil, List.append_nil]
    exact agrees
  · exact (announce_changed mirrors next).see (eq_of_version_eq mirrors versioned) agrees

theorem not_loses_of_mem_changed
    (mirrors : (system.store.informers.informer id).replica.Mirrors items)
    (named : Named (items ++ taken id system move)) {key : Key}
    (unselective : key.IsUnselective) {change : Change}
    (member : change ∈ changed id system move) : ¬ key.Loses change := by
  have later := mirrors_apply mirrors move
  rcases taken_cases system id move with nothing | ⟨item, rfl, next⟩
  · simp [changed, nothing] at member
  · cases change with
    | updated old new =>
        obtain ⟨storedBefore, stored⟩ := (announce_changed mirrors next).updated old new member
        have oldNamed := named old (mem_carried_append _ (mirrors.carried storedBefore))
        have newNamed := named new (later.carried stored)
        obtain ⟨sameNs, sameName⟩ :=
          Object.ns_and_name_of_id (mirrors.filed.own storedBefore) oldNamed newNamed
        rintro ⟨fits, unfit⟩
        rw [unselective.isMatch_congr sameNs sameName, unfit] at fits
        cases fits
    | added object => exact not_false
    | deleted object => exact not_false

/-! ## Runs -/

/-- Who listens before and after a run listened after every move on the way, under a number that
was given out. -/
theorem listens_on_the_way {start : System} {later : List Move}
    (issued : start.store.Issued id subscription)
    (lasting : (start.run later).store.Listens id subscription) {first rest : List Move}
    (split : later = first ++ rest) :
    (start.run first).store.Issued id subscription ∧
      (start.run first).store.Listens id subscription := by
  have issuedThen := (issued.persists (persists_run start first)).1
  refine ⟨issuedThen, (issuedThen.persists (persists_run (start.run first) rest)).2 ?_⟩
  rw [← run_append, ← split]
  exact lasting

theorem versioned_on_the_way {start : System} {later first rest : List Move}
    (versioned : Versioned (items ++ start.consumed id later))
    (split : later = (first ++ [move]) ++ rest) :
    Versioned ((items ++ start.consumed id first) ++ taken id (start.run first) move) := by
  rw [List.append_assoc, ← consumed_concat]
  refine Versioned.of_append ((start.run (first ++ [move])).consumed id rest) ?_
  rw [List.append_assoc, ← consumed_append, ← split]
  exact versioned

theorem seen_eq {start : System} (issued : start.store.Issued id subscription)
    (owner : subscription.id.owner = id)
    (mirrors : ∀ moves, ((start.run moves).store.informers.informer id).replica.Mirrors
      (items ++ start.consumed id moves))
    {later : List Move} (lasting : (start.run later).store.Listens id subscription)
    (versioned : Versioned (items ++ start.consumed id later)) {first rest : List Move}
    (split : later = first ++ rest) :
    start.seen id subscription first =
      (start.run first).listedIds id subscription.key ∪
        {object | subscription.key.Lost (start.changes id first) object} := by
  have listedEq : ∀ moves, (start.run moves).listedIds id subscription.key =
      subscription.key.fitting ((start.run moves).objects id) := fun moves =>
    Replica.listedIds_eq (mirrors moves).filed subscription.key
  rw [listedEq]
  induction first using List.reverseRecOn generalizing rest with
  | nil =>
      have nothingLost : {object | subscription.key.Lost [] object} = (∅ : Set ObjectId) :=
        Set.eq_empty_of_forall_notMem
          (Key.not_lost_of_not_loses fun change member => absurd member List.not_mem_nil)
      have begins := listedEq []
      rw [run_nil] at begins
      simp [seen, heard, changes, collect, begins, nothingLost]
  | append_singleton first move inductionHypothesis =>
      have splitBefore : later = first ++ move :: rest := by simpa using split
      obtain ⟨issuedThen, _⟩ := listens_on_the_way issued lasting splitBefore
      obtain ⟨_, listens⟩ := listens_on_the_way issued lasting split
      rw [run_concat] at listens ⊢
      have step := see_told issuedThen owner listens (mirrors first)
        (versioned_on_the_way versioned split) (inductionHypothesis splitBefore)
      rw [seen, heard, collect_concat, List.foldl_append, changes, collect_concat]
      exact step

theorem not_loses_of_mem_changes {start : System}
    (mirrors : ∀ moves, ((start.run moves).store.informers.informer id).replica.Mirrors
      (items ++ start.consumed id moves)) {key : Key} (unselective : key.IsUnselective)
    {moves : List Move} (named : Named (items ++ start.consumed id moves)) {change : Change}
    (member : change ∈ start.changes id moves) : ¬ key.Loses change := by
  induction moves using List.reverseRecOn with
  | nil => exact absurd member List.not_mem_nil
  | append_singleton moves move inductionHypothesis =>
      rw [consumed_concat, ← List.append_assoc] at named
      rw [changes, collect_concat] at member
      rcases List.mem_append.1 member with earlier | last
      · exact inductionHypothesis (named.of_append _) earlier
      · exact not_loses_of_mem_changed (mirrors moves) named unselective last

/-- If a version stands for one object, then after every move a listener has in view what is listed
for its key and what was lost to it. If no update took an object out of the key, it has in view
exactly what is listed; this is so for every key that leaves no object out for its labels. -/
theorem view_agrees_with_list (config : StoreConfig) (client : ClientId) (id : InformerId)
    (subscription : Subscription Listener) (earlier later : List Move)
    (registered : ((start config client).run earlier).store.Listens id subscription)
    (lasting : ((start config client).run (earlier ++ later)).store.Listens id subscription)
    (versioned : Versioned ((start config client).consumed id (earlier ++ later))) :
    (∀ first rest, later = first ++ rest →
      ((start config client).run earlier).seen id subscription first =
        ((start config client).run (earlier ++ first)).listedIds id subscription.key ∪
          {object | subscription.key.Lost
            (((start config client).run earlier).changes id first) object}) ∧
      (∀ first rest, later = first ++ rest →
        (∀ change ∈ ((start config client).run earlier).changes id first,
          ¬ subscription.key.Loses change) →
        ((start config client).run earlier).seen id subscription first =
          ((start config client).run (earlier ++ first)).listedIds id subscription.key) ∧
      (subscription.key.IsUnselective →
        Named ((start config client).consumed id (earlier ++ later)) →
        ∀ first rest, later = first ++ rest →
          ((start config client).run earlier).seen id subscription first =
            ((start config client).run (earlier ++ first)).listedIds id subscription.key) := by
  obtain ⟨issued, owner⟩ := Store.issued_of_mem (numbered_run config client earlier)
    registered.registered
  have mirrors : ∀ moves,
      ((((start config client).run earlier).run moves).store.informers.informer
        id).replica.Mirrors ((start config client).consumed id earlier ++
          ((start config client).run earlier).consumed id moves) := by
    intro moves
    rw [← run_append, ← consumed_append]
    exact mirrors_run config client id (earlier ++ moves)
  rw [run_append] at lasting
  rw [consumed_append] at versioned
  have view : ∀ first rest, later = first ++ rest →
      ((start config client).run earlier).seen id subscription first =
        ((start config client).run (earlier ++ first)).listedIds id subscription.key ∪
          {object | subscription.key.Lost
            (((start config client).run earlier).changes id first) object} := by
    intro first rest split
    rw [run_append]
    exact seen_eq issued owner mirrors lasting versioned split
  have viewKept : ∀ first rest, later = first ++ rest →
      (∀ change ∈ ((start config client).run earlier).changes id first,
        ¬ subscription.key.Loses change) →
      ((start config client).run earlier).seen id subscription first =
        ((start config client).run (earlier ++ first)).listedIds id subscription.key := by
    intro first rest split keeps
    have nothingLost := Set.eq_empty_of_forall_notMem
      (s := {object | subscription.key.Lost
        (((start config client).run earlier).changes id first) object})
      (Key.not_lost_of_not_loses keeps)
    rw [view first rest split, nothingLost, Set.union_empty]
  refine ⟨view, viewKept, ?_⟩
  intro unselective named first rest split
  refine viewKept first rest split fun change member => ?_
  rw [split, consumed_append, consumed_append, ← List.append_assoc] at named
  exact not_loses_of_mem_changes mirrors unselective (named.of_append _) member

/-! A listener on the pods of one label, and a run in which a pod loses the label. -/

def webKey : Key := (Key.ofScope "default" "v1" "Pod").withSelector [("app", "web")]

def webListener : Subscription Listener := ⟨⟨0, 0⟩, webKey, ⟨"web", []⟩⟩

def labelledPod (version app : String) : Object :=
  ⟨none, { (default : Metadata) with
      name := some "a"
      ns := some "default"
      resourceVersion := some version
      labels := some (Dictionary.ofList [("app", app)]) }, Dictionary.empty⟩

def webWatch : List Move :=
  [.presetDecision ⟨"default", "", "pods", Verb.watch.text⟩ true,
    .begin (.watch webKey ⟨"web", []⟩ ⟨"", "v1", "pods"⟩),
    .answer 0 (.resource (.ok (.served "" "v1" "Pod" "pods"))),
    .answer 0 (.resource (.ok (.served "" "v1" "Pod" "pods")))]

/-- The pod appears with the label, and is updated to another one. -/
def relabelling : List Move :=
  [.send 0 (.event .init), .send 0 (.event .initDone), .turn 0, .turn 0,
    .send 0 (.event (.apply (labelledPod "1" "web"))), .turn 0,
    .send 0 (.event (.apply (labelledPod "2" "db"))), .turn 0]

theorem carried_relabelling :
    ((start .standard 0).consumed 0 (webWatch ++ relabelling)).filterMap StreamItem.carried? =
      [labelledPod "1" "web", labelledPod "2" "db"] := rfl

theorem heard_relabelling :
    ((start .standard 0).run webWatch).heard ⟨0, 0⟩ relabelling =
      [.added (labelledPod "1" "web")] := rfl

theorem versioned_relabelling :
    Versioned ((start .standard 0).consumed 0 (webWatch ++ relabelling)) :=
  versioned_of_carried carried_relabelling (by decide)

/-- The pod that lost the label is still in view, and is no longer listed. -/
theorem seen_relabelling_ne_listed :
    ((start .standard 0).run webWatch).store.Listens 0 webListener ∧
      ((start .standard 0).run (webWatch ++ relabelling)).store.Listens 0 webListener ∧
      Versioned ((start .standard 0).consumed 0 (webWatch ++ relabelling)) ∧
      Named ((start .standard 0).consumed 0 (webWatch ++ relabelling)) ∧
      (∀ object ∈ ((start .standard 0).consumed 0 (webWatch ++ relabelling)).filterMap
        StreamItem.carried?, object.resourceVersion ≠ none) ∧
      ((start .standard 0).run webWatch).seen 0 webListener relabelling ≠
        ((start .standard 0).run (webWatch ++ relabelling)).listedIds 0 webKey := by
  have inView : (⟨"default", "a"⟩ : ObjectId) ∈
      ((start .standard 0).run webWatch).seen 0 webListener relabelling := by
    rw [seen, webListener, heard_relabelling]
    exact Set.mem_insert _ _
  have unlisted : (⟨"default", "a"⟩ : ObjectId) ∉
      ((start .standard 0).run (webWatch ++ relabelling)).listedIds 0 webKey := by
    have stored : (((start .standard 0).run (webWatch ++ relabelling)).objects 0).get?
        ⟨"default", "a"⟩ = some (labelledPod "2" "db") := rfl
    have unfit : webKey.isMatch (labelledPod "2" "db") = false := by decide
    rw [listedIds, Replica.listedIds_eq (mirrors_run .standard 0 0 _).filed]
    intro fits
    rw [(Key.mem_fitting_of_some stored).1 fits] at unfit
    cases unfit
  refine ⟨⟨List.mem_singleton.2 rfl, rfl⟩, ⟨List.mem_singleton.2 rfl, rfl⟩,
    versioned_relabelling, ?_, ?_, fun same => unlisted (same ▸ inView)⟩
  · intro object member
    rw [carried_relabelling] at member
    simp only [List.mem_cons, List.not_mem_nil, or_false] at member
    rcases member with rfl | rfl <;> exact ⟨by decide, by decide⟩
  · intro object member
    rw [carried_relabelling] at member
    simp only [List.mem_cons, List.not_mem_nil, or_false] at member
    rcases member with rfl | rfl <;> decide

theorem view_agrees_with_list_relabelling :
    ((start .standard 0).run webWatch).store.Listens 0 webListener ∧
      ((start .standard 0).run (webWatch ++ relabelling)).store.Listens 0 webListener ∧
      Versioned ((start .standard 0).consumed 0 (webWatch ++ relabelling)) ∧
      ((start .standard 0).run webWatch).seen 0 webListener relabelling =
        ((start .standard 0).run (webWatch ++ relabelling)).listedIds 0 webKey ∪
          {object | webKey.Lost (((start .standard 0).run webWatch).changes 0 relabelling)
            object} := by
  have registered : ((start .standard 0).run webWatch).store.Listens 0 webListener :=
    ⟨List.mem_singleton.2 rfl, rfl⟩
  have lasting :
      ((start .standard 0).run (webWatch ++ relabelling)).store.Listens 0 webListener :=
    ⟨List.mem_singleton.2 rfl, rfl⟩
  exact ⟨registered, lasting, versioned_relabelling,
    (view_agrees_with_list .standard 0 0 webListener webWatch relabelling registered lasting
      versioned_relabelling).1 relabelling [] (List.append_nil _).symm⟩

end System

end ClusterCache
