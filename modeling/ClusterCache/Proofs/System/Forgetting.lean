import ClusterCache.Proofs.Store.Forgetting
import ClusterCache.Proofs.System.Ownership

/-!
# What it means to stop watching kinds

A call that stops watching kinds asks for the resource of each kind in turn, and forgets those that
are mapped. Main statement: whatever state the system had reached with keys without quotes, the
listed kinds that are mapped are gone afterwards in every namespace and their types have no live
informer, and nothing else has changed. In particular neither the order of the list nor repetitions
in it matter, and to do it once more changes nothing. There is one exception: an API version that
starts with a slash names a kind without a group, but is not the text that this kind spells, and
scopes under such a text stay on record.
-/

namespace ClusterCache

/-! ## Runs with keys without quotes -/

/-- The operation records only keys without quotes. -/
def Operation.IsUnquoted : Operation → Prop
  | .list key | .get key | .watch key .. => key.IsUnquoted
  | _ => True

/-- The move begins no operation that records a key with a quote. -/
def Move.IsUnquoted : Move → Prop
  | .begin operation => operation.IsUnquoted
  | _ => True

theorem Operation.isUnquoted_entryDeed (operation : Operation) :
    operation.entryDeed.IsUnquoted := by
  cases operation <;> trivial

theorem Operation.isUnquoted_beginDeed (store : Store) (call : CallId) (operation : Operation) :
    (operation.beginDeed store call).IsUnquoted := by
  unfold beginDeed
  split
  · exact operation.isUnquoted_entryDeed
  · split
    · exact operation.isUnquoted_entryDeed
    · trivial

theorem Operation.isUnquoted_answerDeed {operation : Operation} (unquoted : operation.IsUnquoted)
    (purpose : Purpose) (answer : Answer) : (operation.answerDeed purpose answer).IsUnquoted := by
  unfold answerDeed
  split
  · cases operation <;> exact unquoted
  · trivial
  · trivial

theorem Call.isUnquoted_deed (store : Store) (call : CallId) {current : Call}
    (unquoted : current.operation.IsUnquoted) (move : Move) :
    (current.deed store call move).IsUnquoted := by
  obtain ⟨operation, stage⟩ := current
  cases move with
  | enter other =>
      cases stage with
      | arriving =>
          simp only [deed]
          split
          · exact operation.isUnquoted_entryDeed
          · trivial
      | _ => trivial
  | answer other answer =>
      cases stage with
      | asking client request purpose => exact Operation.isUnquoted_answerDeed unquoted _ _
      | _ => trivial
  | _ => trivial

namespace System

/-- Everything that is recorded was recorded for keys without quotes, and so will be what the calls
under way record. -/
structure Spelled (system : System) : Prop where
  held : system.store.holdings.Spelled
  calls : ∀ {call : CallId} {current : Call}, system.calls[call]? = some current →
    current.operation.IsUnquoted

variable {system : System} {move : Move}

theorem Spelled.isUnquoted_deed (spelled : system.Spelled) (move : Move) :
    (system.deed move).IsUnquoted := by
  cases move with
  | begin operation => exact operation.isUnquoted_beginDeed _ _
  | enter call | takeLock call | answer call answer | giveUp call =>
      simp only [deed]
      split
      · rename_i current called
        exact Call.isUnquoted_deed _ _ (spelled.calls called) _
      · trivial
  | _ => trivial

theorem Spelled.calls_apply (spelled : system.Spelled) (unquoted : move.IsUnquoted)
    {call : CallId} {current : Call} (called : (system.apply move).calls[call]? = some current) :
    current.operation.IsUnquoted := by
  cases before : system.calls[call]? with
  | some earlier =>
      rw [operation_eq before called]
      exact spelled.calls before
  | none =>
      by_cases own : system.isMoveOf call move = true
      · obtain ⟨operation, rfl, _, callsAfter⟩ := begin_of_isMoveOf before own
        rw [callsAfter] at called
        rw [← Option.some.inj called]
        exact unquoted
      · rw [calls_of_not_isMoveOf (by simpa using own), before] at called
        cases called

theorem Spelled.apply (spelled : system.Spelled) (unquoted : move.IsUnquoted) :
    (system.apply move).Spelled where
  calls := spelled.calls_apply unquoted
  held := by
    have held := spelled.held
    by_cases isCall : move.isCall = true
    · rw [holdings_apply isCall]
      exact held.perform (spelled.isUnquoted_deed move)
    · cases move with
      | send id item => exact held.of_same rfl rfl fun _ member => member
      | endStream id => exact held.of_same rfl rfl fun _ member => member
      | turn id => exact held.turn id
      | wake id =>
          simp only [System.apply, modify]
          split
          · rename_i waiter found
            exact held.wake (List.mem_of_find?_eq_some found)
          · exact held
      | shutdown => exact held.of_same rfl rfl fun _ member => member
      | begin operation | enter call | takeLock call | answer call answer | giveUp call =>
          exact absurd rfl isCall
      | _ => exact held

theorem Spelled.run (spelled : system.Spelled) {moves : List Move}
    (unquoted : ∀ move ∈ moves, move.IsUnquoted) : (system.run moves).Spelled := by
  induction moves generalizing system with
  | nil => exact spelled
  | cons move rest inductionHypothesis =>
      exact inductionHypothesis (spelled.apply (unquoted move List.mem_cons_self))
        fun other member => unquoted other (List.mem_cons_of_mem _ member)

theorem spelled_start (config : StoreConfig) (client : ClientId) :
    (start config client).Spelled where
  held := Store.spelled_start config client
  calls called := by cases called

/-! ## The call -/

variable {resolve : GroupVersionKind → Except Error ApiResource}

/-- The move lets a call that stops watching the kinds through the gate. -/
def Admits (system : System) (call : CallId) (kinds : List GroupVersionKind) : Move → Prop
  | .begin operation =>
      operation = .unwatch kinds ∧ system.calls.length = call ∧
        (system.store.gate.arrive call .shared).isInside call = true
  | .enter entering =>
      entering = call ∧ system.calls[call]? = some ⟨.unwatch kinds, .arriving⟩ ∧
        system.store.gate.isInside call = true
  | _ => False

def mappings (resolve : GroupVersionKind → Except Error ApiResource) (call : CallId)
    (kinds : List GroupVersionKind) : List Move :=
  kinds.map fun kind => .answer call (.resource (resolve kind))

/-- Where such a call stands when some kinds are left. -/
def unwatching (client : ClientId) : List GroupVersionKind → Stage
  | [] => .finished (.ok .done)
  | kind :: rest => .asking client (.resource kind) (.forget kind rest)

theorem unwatchNext_snd (store : Store) (call : CallId) (kinds : List GroupVersionKind)
    (client : ClientId) (left : List GroupVersionKind) :
    (store.unwatchNext call (.unwatch kinds) client left).2 = unwatching client left := by
  cases left <;> rfl

/-- The call is through the gate and asks for its first kind; nothing was forgotten yet. -/
theorem admitted {call : CallId} {kinds : List GroupVersionKind}
    (admits : system.Admits call kinds move) :
    (system.apply move).store.holdings = system.store.holdings ∧
      (system.apply move).calls[call]? =
        some ⟨.unwatch kinds, unwatching system.store.client kinds⟩ := by
  cases move with
  | begin operation =>
      obtain ⟨rfl, rfl, inside⟩ := admits
      have begun : system.store.begin system.calls.length (.unwatch kinds) =
          { system.store with gate := system.store.gate.arrive system.calls.length .shared
              }.unwatchNext system.calls.length (.unwatch kinds) system.store.client kinds := by
        simp only [Store.begin, Operation.passage?, inside, if_true]
        rfl
      simp only [System.apply, begun, List.getElem?_concat_length]
      rw [Store.holdings_unwatchNext, unwatchNext_snd]
      exact ⟨rfl, rfl⟩
  | enter entering =>
      obtain ⟨rfl, called, inside⟩ := admits
      have used : entering < system.calls.length := (List.getElem?_eq_some_iff.1 called).1
      have entered : system.store.enter entering (.unwatch kinds) =
          system.store.unwatchNext entering (.unwatch kinds) system.store.client kinds := rfl
      simp only [System.apply, proceed, called, inside, if_true, entered,
        List.getElem?_set_self used]
      rw [Store.holdings_unwatchNext, unwatchNext_snd]
      exact ⟨rfl, rfl⟩
  | _ => exact admits.elim

/-- The kind is listed and mapped to a resource. -/
def Gone (resolve : GroupVersionKind → Except Error ApiResource) (kinds : List GroupVersionKind)
    (kind : GroupVersionKind) : Prop :=
  kind ∈ kinds ∧ ∃ resource, resolve kind = .ok resource

def Ended (resolve : GroupVersionKind → Except Error ApiResource) (kinds : List GroupVersionKind)
    (type : ResourceType) : Prop :=
  ∃ kind ∈ kinds, ∃ resource, resolve kind = .ok resource ∧ type = .ofResource resource

theorem gone_cons_iff {kind : GroupVersionKind} {rest : List GroupVersionKind}
    (other : GroupVersionKind) :
    Gone resolve (kind :: rest) other ↔ Gone resolve [kind] other ∨ Gone resolve rest other := by
  simp [Gone, or_and_right]

theorem ended_cons_iff {kind : GroupVersionKind} {rest : List GroupVersionKind}
    (type : ResourceType) :
    Ended resolve (kind :: rest) type ↔ Ended resolve [kind] type ∨ Ended resolve rest type := by
  simp [Ended]

variable (resolve) in
/-- The answer for one kind lets the call forget it, if it is mapped, and go on to the next. -/
theorem forgets_answer (spelled : system.Spelled) {call : CallId}
    {kinds rest : List GroupVersionKind} {kind : GroupVersionKind} {client : ClientId}
    (called : system.calls[call]? = some ⟨.unwatch kinds, unwatching client (kind :: rest)⟩) :
    system.store.holdings.Forgets (Gone resolve [kind]) (Ended resolve [kind])
        (system.apply (.answer call (.resource (resolve kind)))).store.holdings ∧
      (system.apply (.answer call (.resource (resolve kind)))).calls[call]? =
        some ⟨.unwatch kinds, unwatching client rest⟩ := by
  have used : call < system.calls.length := (List.getElem?_eq_some_iff.1 called).1
  simp only [System.apply, proceed, called, unwatching, List.getElem?_set_self used]
  cases mapped : resolve kind with
  | ok resource =>
      simp only [Store.answered]
      rw [Store.holdings_unwatchNext, unwatchNext_snd]
      refine ⟨(Holdings.forgets_forgetKind spelled.held kind resource).congr ?_ ?_, rfl⟩
      · intro other
        simp only [Gone, List.mem_singleton, iff_self_and]
        rintro rfl
        exact ⟨resource, mapped⟩
      · intro type
        simp [Ended, mapped]
  | error error =>
      simp only [Store.answered]
      rw [Store.holdings_unwatchNext, unwatchNext_snd]
      refine ⟨(Holdings.Forgets.refl _).congr ?_ ?_, rfl⟩
      · intro other
        simp only [Gone, List.mem_singleton, false_iff, not_and]
        rintro rfl ⟨resource, otherwise⟩
        rw [mapped] at otherwise
        cases otherwise
      · intro type
        simp [Ended, mapped]

variable (resolve) in
/-- The answers for all kinds let the call forget those that are mapped, and finish. -/
theorem forgets_mappings (spelled : system.Spelled) {call : CallId}
    {kinds rest : List GroupVersionKind} {client : ClientId}
    (called : system.calls[call]? = some ⟨.unwatch kinds, unwatching client rest⟩) :
    system.store.holdings.Forgets (Gone resolve rest) (Ended resolve rest)
        (system.run (mappings resolve call rest)).store.holdings ∧
      (system.run (mappings resolve call rest)).stage? call = some (.finished (.ok .done)) := by
  induction rest generalizing system with
  | nil =>
      refine ⟨(Holdings.Forgets.refl _).congr ?_ ?_, ?_⟩
      · simp [Gone]
      · simp [Ended]
      · change system.stage? call = _
        rw [stage?, called]
        rfl
  | cons kind rest inductionHypothesis =>
      -- What one answer forgets and what the others forget add up, and the frames compose.
      obtain ⟨forgetsFirst, calledNext⟩ := forgets_answer resolve spelled called
      have spelledNext : (system.apply (.answer call (.resource (resolve kind)))).Spelled :=
        spelled.apply trivial
      obtain ⟨forgetsRest, finished⟩ := inductionHypothesis spelledNext calledNext
      refine ⟨(forgetsFirst.trans forgetsRest).congr ?_ ?_, finished⟩
      · exact fun other => (gone_cons_iff other).symm
      · exact fun type => (ended_cons_iff type).symm

/-- The moves of a call that stops watching the kinds, from the gate to the end. -/
def unwatchMoves (resolve : GroupVersionKind → Except Error ApiResource) (call : CallId)
    (kinds : List GroupVersionKind) (move : Move) : List Move :=
  move :: mappings resolve call kinds

theorem isUnquoted_unwatchMoves {call : CallId} {kinds : List GroupVersionKind}
    (admits : system.Admits call kinds move) {other : Move}
    (member : other ∈ unwatchMoves resolve call kinds move) : other.IsUnquoted := by
  rcases List.mem_cons.1 member with rfl | isAnswer
  · cases other with
    | begin operation => rw [admits.1]; trivial
    | _ => trivial
  · obtain ⟨kind, _, rfl⟩ := List.mem_map.1 isAnswer
    trivial

variable (resolve) in
theorem forgets_unwatchMoves (spelled : system.Spelled) {call : CallId}
    {kinds : List GroupVersionKind} (admits : system.Admits call kinds move) :
    system.store.holdings.Forgets (Gone resolve kinds) (Ended resolve kinds)
        (system.run (unwatchMoves resolve call kinds move)).store.holdings ∧
      (system.run (unwatchMoves resolve call kinds move)).stage? call =
        some (.finished (.ok .done)) := by
  obtain ⟨same, called⟩ := admitted admits
  have first : move ∈ unwatchMoves resolve call kinds move := List.mem_cons_self
  have unquoted : move.IsUnquoted := isUnquoted_unwatchMoves admits first
  have whole := forgets_mappings resolve (spelled.apply unquoted) called
  rwa [same] at whole

/-! ## Every reached state -/

/-- From one state of the holdings to another the listed kinds that are mapped are gone, and nothing
else has changed. -/
structure Unwatched (resolve : GroupVersionKind → Except Error ApiResource)
    (kinds : List GroupVersionKind) (before after : Holdings) : Prop where
  /-- A type that a listed kind is mapped to has no live informer. -/
  torn : ∀ type, Ended resolve kinds type →
    after.informers.find? type = none ∧
      ∀ id, id < after.informers.started.length → (after.informers.informer id).type = type →
        after.informers.isStopped id = true
  /-- A listed kind that is mapped is not recorded as used, in any namespace. -/
  unused : ∀ key : Key, Gone resolve kinds key.groupVersionKind →
    after.usage.noted? key.ns key.groupVersionKind = none
  /-- Nor is anything recorded about its scopes, unless they spell its API version with a slash in
  front. -/
  forgotten : ∀ key : Key, key.IsUnquoted → Gone resolve kinds key.groupVersionKind →
    key.apiVersion.toList.head? ≠ some '/' →
    after.loading.isLoaded key.scope = true ∧ after.loading.isRecorded key.scope = false
  /-- The records of every other kind are the same. -/
  kept : ∀ key : Key, key.IsUnquoted → ¬ Gone resolve kinds key.groupVersionKind →
    after.loading.entries.get? key.scope.text = before.loading.entries.get? key.scope.text ∧
      after.usage.noted? key.ns key.groupVersionKind =
        before.usage.noted? key.ns key.groupVersionKind
  /-- Every other type has the same informer, which goes on if it did. -/
  going : ∀ type, ¬ Ended resolve kinds type →
    after.informers.current.get? type = before.informers.current.get? type ∧
      ∀ id, before.informers.find? type = some id →
        after.informers.isStopped id = before.informers.isStopped id
  /-- No informer has lost objects or handlers. -/
  informers : after.informers.started = before.informers.started
  waiters : after.waiters = before.waiters
  registrations : after.registrations = before.registrations

section Reached

variable {kinds : List GroupVersionKind} {before after : Holdings}

/-- The entry of a key without quotes was made for a kind without slashes only if the key asks for
that kind. -/
theorem gone_of_isFor (spelled : before.Spelled)
    (slashless : ∀ kind ∈ kinds, kind.IsSlashless) {key : Key} (unquoted : key.IsUnquoted)
    {entry : ScopeEntry} (found : before.loading.entries.get? key.scope.text = some entry)
    (isFor : Holdings.IsFor (Gone resolve kinds) entry) :
    Gone resolve kinds key.groupVersionKind := by
  obtain ⟨kind, gone, apiVersion, sameKind⟩ := isFor
  obtain ⟨keyVersion, keyKind⟩ := spelled.entry_eq unquoted found
  have asked : key.groupVersionKind = kind :=
    Key.groupVersionKind_of_apiVersion (slashless kind gone.1) (keyVersion.symm.trans apiVersion)
      (keyKind.symm.trans sameKind)
  rwa [asked]

/-- The entry of a plain key was made for the kind that the key asks for. -/
theorem isFor_of_gone (spelled : before.Spelled) {key : Key} (plain : key.IsPlain)
    (gone : Gone resolve kinds key.groupVersionKind) {entry : ScopeEntry}
    (found : before.loading.entries.get? key.scope.text = some entry) :
    Holdings.IsFor (Gone resolve kinds) entry := by
  obtain ⟨keyVersion, keyKind⟩ := spelled.entry_eq plain.isUnquoted found
  exact ⟨key.groupVersionKind, gone,
    keyVersion.trans plain.apiVersion_groupVersionKind.symm, keyKind⟩

/-- A live informer of a type that has not ended keeps its token. -/
theorem isStopped_of_not_ended (owned : before.informers.Owned)
    (forgets : before.Forgets (Gone resolve kinds) (Ended resolve kinds) after)
    {type : ResourceType} (notEnded : ¬ Ended resolve kinds type) {id : InformerId}
    (found : before.informers.find? type = some id) :
    after.informers.isStopped id = before.informers.isStopped id := by
  have informer : after.informers.informer id = before.informers.informer id := by
    rw [Informers.informer, Informers.informer, forgets.started]
  rw [Informers.isStopped, Informers.isStopped, informer, Bool.eq_iff_iff, forgets.cancelled]
  refine ⟨?_, Or.inl⟩
  rintro (cancelled | ⟨other, isEnded, onRecord⟩)
  · exact cancelled
  · by_contra going
    have isOpen : before.informers.tokens.closed = false :=
      (Informers.isStopped_eq_false_iff.1 (Bool.not_eq_true _ ▸ going)).1
    rw [owned.registry isOpen, Option.map_eq_some_iff] at onRecord
    obtain ⟨otherId, otherFound, sameToken⟩ := onRecord
    have same := owned.distinct (owned.used otherFound) (owned.used found) sameToken
    rw [← owned.type found, ← same, owned.type otherFound] at notEnded
    exact notEnded isEnded

theorem unwatched_of_forgets (spelled : before.Spelled) (owned : before.informers.Owned)
    (ownedAfter : after.informers.Owned) (slashless : ∀ kind ∈ kinds, kind.IsSlashless)
    (forgets : before.Forgets (Gone resolve kinds) (Ended resolve kinds) after) :
    Unwatched resolve kinds before after where
  torn type ended := by
    have vacant : after.informers.find? type = none := by
      refine Option.eq_none_iff_forall_not_mem.2 fun id found => ?_
      obtain ⟨old, _, isEntry⟩ :=
        (forgets.current type (some id)).1 (Option.join_eq_some_iff.1 found)
      rcases isEntry with ⟨_, nothing⟩ | ⟨notEnded, _⟩
      · cases nothing
      · exact notEnded ended
    refine ⟨vacant, fun id used ofType => ?_⟩
    by_contra going
    have found := ownedAfter.owned used (Bool.not_eq_true _ ▸ going)
    rw [ofType, vacant] at found
    cases found
  unused key gone :=
    Option.eq_none_iff_forall_not_mem.2 fun used recorded =>
      ((forgets.usage key.ns key.groupVersionKind used).1 recorded).2 gone
  forgotten key unquoted gone noGroup := by
    have plain : key.IsPlain :=
      ⟨unquoted.ns, unquoted.apiVersion, unquoted.kind, noGroup⟩
    have nothing : after.loading.entries.get? key.scope.text = none := by
      refine Option.eq_none_iff_forall_not_mem.2 fun entry found => ?_
      obtain ⟨foundBefore, notFor⟩ := (forgets.loading _ entry).1 found
      exact notFor (isFor_of_gone spelled plain gone foundBefore)
    simp [Loading.isLoaded, Loading.isRecorded, Table.contains, nothing]
  kept key unquoted notGone := by
    constructor
    · refine Option.ext fun entry => ?_
      rw [forgets.loading]
      refine and_iff_left_of_imp fun found isFor => notGone ?_
      exact gone_of_isFor spelled slashless unquoted found isFor
    · refine Option.ext fun used => ?_
      rw [forgets.usage]
      exact and_iff_left_of_imp fun _ => notGone
  going type notEnded := by
    refine ⟨Option.ext fun entry => ?_, fun id found => isStopped_of_not_ended owned forgets
      notEnded found⟩
    simp [forgets.current, notEnded]
  informers := forgets.started
  waiters := forgets.waiters
  registrations := forgets.registrations

end Reached

/-- To stop watching kinds, in whatever state the system has reached with keys without quotes,
succeeds; the listed kinds that are mapped are gone, whatever the order of the list and the
repetitions in it, and to do it once more changes nothing. -/
theorem unwatch_forgets_listed (config : StoreConfig) (client : ClientId) (moves : List Move)
    (unquoted : ∀ move ∈ moves, move.IsUnquoted)
    {before : System} (reached : (start config client).run moves = before)
    (resolve : GroupVersionKind → Except Error ApiResource) (kinds : List GroupVersionKind)
    (slashless : ∀ kind ∈ kinds, kind.IsSlashless) (call : CallId) (move : Move)
    (admits : before.Admits call kinds move)
    {after : System} (done : before.run (unwatchMoves resolve call kinds move) = after) :
    after.stage? call = some (.finished (.ok .done)) ∧
      Unwatched resolve kinds before.store.holdings after.store.holdings ∧
      (∀ others otherCall otherMove, (∀ kind, kind ∈ others ↔ kind ∈ kinds) →
        before.Admits otherCall others otherMove →
        (before.run (unwatchMoves resolve otherCall others otherMove)).store.holdings.Alike
          after.store.holdings) ∧
      ∀ laterCall laterMove, after.Admits laterCall kinds laterMove →
        (after.run (unwatchMoves resolve laterCall kinds laterMove)).store.holdings.Alike
          after.store.holdings := by
  have spelled : before.Spelled := by
    rw [← reached]
    exact (spelled_start config client).run unquoted
  have owned : before.store.informers.Owned := by
    rw [← reached]
    exact owned_run (Informers.owned_empty client config.ns) moves
  have ownedAfter : after.store.informers.Owned := by
    rw [← done]
    exact owned_run owned _
  obtain ⟨forgets, finished⟩ := forgets_unwatchMoves resolve spelled admits
  rw [done] at forgets finished
  have spelledAfter : after.Spelled := by
    rw [← done]
    exact spelled.run fun other member => isUnquoted_unwatchMoves admits member
  refine ⟨finished, unwatched_of_forgets spelled.held owned ownedAfter slashless forgets, ?_, ?_⟩
  · intro others otherCall otherMove sameMembers otherAdmits
    obtain ⟨otherForgets, _⟩ := forgets_unwatchMoves resolve spelled otherAdmits
    refine (otherForgets.congr ?_ ?_).alike forgets
    · simp [Gone, sameMembers]
    · simp [Ended, sameMembers]
  · intro laterCall laterMove laterAdmits
    obtain ⟨laterForgets, _⟩ := forgets_unwatchMoves resolve spelledAfter laterAdmits
    refine ((forgets.trans laterForgets).congr ?_ ?_).alike forgets
    · simp
    · simp

/-! Two kinds are listed in a namespace. Then a kind that is not served and one of the two are no
longer watched. -/

def deployment : GroupVersionKind := ⟨"apps", "v1", "Deployment"⟩

def rollout : GroupVersionKind := ⟨"apps", "v2", "Rollout"⟩

def resolveApps (kind : GroupVersionKind) : Except Error ApiResource :=
  if kind = deployment then .ok (.served "apps" "v1" "Deployment" "deployments")
  else if kind.kind = "DaemonSet" then .ok (.served "apps" "v1" "DaemonSet" "daemonsets")
  else .error (.custom "the kind is not served")

def deploymentKey : Key := .ofScope "team" "apps/v1" "Deployment"

def daemonKey : Key := .ofScope "team" "apps/v1" "DaemonSet"

def appsListed : List Move :=
  [.presetDecision ⟨"team", "apps", "deployments", Verb.list.text⟩ true,
    .presetDecision ⟨"team", "apps", "daemonsets", Verb.list.text⟩ true,
    .begin (.list deploymentKey),
    .answer 0 (.resource (resolveApps deployment)),
    .answer 0 (.resource (resolveApps deployment)),
    .begin (.list daemonKey),
    .answer 1 (.resource (resolveApps daemonKey.groupVersionKind)),
    .answer 1 (.resource (resolveApps daemonKey.groupVersionKind))]

theorem unwatch_forgets_listed_deployments :
    (∀ move ∈ appsListed, move.IsUnquoted) ∧
      (∀ kind ∈ [rollout, deployment], kind.IsSlashless) ∧
      ((start .standard 0).run appsListed).Admits 2 [rollout, deployment]
        (.begin (.unwatch [rollout, deployment])) ∧
      Unwatched resolveApps [rollout, deployment]
        ((start .standard 0).run appsListed).store.holdings
        (((start .standard 0).run appsListed).run (unwatchMoves resolveApps 2
          [rollout, deployment] (.begin (.unwatch [rollout, deployment])))).store.holdings := by
  have unquoted : ∀ move ∈ appsListed, move.IsUnquoted := by
    simp only [appsListed, List.forall_mem_cons]
    refine ⟨trivial, trivial, ⟨?_, ?_, ?_⟩, trivial, trivial, ⟨?_, ?_, ?_⟩, trivial, trivial,
      List.forall_mem_nil _⟩
    all_goals decide
  have slashless : ∀ kind ∈ [rollout, deployment], kind.IsSlashless := by
    simp only [List.forall_mem_cons]
    exact ⟨⟨by decide, by decide⟩, ⟨by decide, by decide⟩, List.forall_mem_nil _⟩
  have admits : ((start .standard 0).run appsListed).Admits 2 [rollout, deployment]
      (.begin (.unwatch [rollout, deployment])) := ⟨rfl, rfl, rfl⟩
  exact ⟨unquoted, slashless, admits,
    (unwatch_forgets_listed .standard 0 appsListed unquoted rfl resolveApps [rollout, deployment]
      slashless 2 _ admits rfl).2.1⟩

/-! A key that spells the API version of the same kind with a slash in front. -/

def slashedKey : Key := .ofScope "team" "/v1" "Endpoints"

def endpoints : GroupVersionKind := ⟨"", "v1", "Endpoints"⟩

def resolveEndpoints (_ : GroupVersionKind) : Except Error ApiResource :=
  .ok (.served "" "v1" "Endpoints" "endpoints")

def endpointsListed : List Move :=
  [.presetDecision ⟨"team", "", "endpoints", Verb.list.text⟩ true,
    .begin (.list slashedKey),
    .answer 0 (.resource (resolveEndpoints endpoints)),
    .answer 0 (.resource (resolveEndpoints endpoints))]

/-- The kind that the key asks for is no longer watched, but its scope still counts as loading. -/
theorem unwatch_keeps_slashed_scope :
    slashedKey.IsUnquoted ∧ endpoints.IsSlashless ∧ slashedKey.groupVersionKind = endpoints ∧
      ((start .standard 0).run endpointsListed).Admits 1 [endpoints]
        (.begin (.unwatch [endpoints])) ∧
      (((start .standard 0).run endpointsListed).run (unwatchMoves resolveEndpoints 1 [endpoints]
        (.begin (.unwatch [endpoints])))).store.loading.isLoaded slashedKey.scope = false :=
  ⟨⟨by decide, by decide, by decide⟩, ⟨by decide, by decide⟩, by decide, ⟨rfl, rfl, rfl⟩,
    by decide⟩

end System

end ClusterCache
