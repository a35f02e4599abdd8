import ClusterCache.Proofs.Informers.Continuation

/-!
# Every live loop is owned

Each informer has a token of its own. An informer whose token is not cancelled is the current one of
its type; as long as the registry is open, current informers are not stopped, and the registry has
exactly their tokens on record. Every operation on the informers keeps this.
-/

namespace ClusterCache.Informers

variable {η : Type}

/-- Current informers, tokens and types are in step. -/
structure Owned (informers : Informers η) : Prop where
  used : ∀ {type id}, informers.find? type = some id → id < informers.started.length
  type : ∀ {type id}, informers.find? type = some id → (informers.informer id).type = type
  issued : ∀ {id}, id < informers.started.length →
    (informers.informer id).token < informers.tokens.issued
  distinct : ∀ {id other}, id < informers.started.length → other < informers.started.length →
    (informers.informer id).token = (informers.informer other).token → id = other
  cancelled : ∀ token ∈ informers.tokens.cancelled, token < informers.tokens.issued
  recorded : ∀ token ∈ informers.tokens.current.values, token < informers.tokens.issued
  registry : informers.tokens.closed = false → ∀ type,
    informers.tokens.current.get? type =
      (informers.find? type).map fun id => (informers.informer id).token
  live : informers.tokens.closed = false → ∀ {type id}, informers.find? type = some id →
    informers.isStopped id = false
  owned : ∀ {id}, id < informers.started.length → informers.isStopped id = false →
    informers.find? (informers.informer id).type = some id

theorem owned_empty (client : ClientId) (ns : Option String) :
    (empty client ns : Informers η).Owned where
  used found := by cases found
  type found := by cases found
  issued used := absurd used (Nat.not_lt_zero _)
  distinct used := absurd used (Nat.not_lt_zero _)
  cancelled _ member := absurd member List.not_mem_nil
  recorded _ member := absurd member List.not_mem_nil
  registry _ _ := rfl
  live _ _ _ found := by cases found
  owned used := absurd used (Nat.not_lt_zero _)

/-- Which informers there are, of which types, under which tokens, and which are current has not
changed; who was synced still is. -/
structure Steady (before after : Informers η) : Prop where
  tokens : after.tokens = before.tokens
  current : after.current = before.current
  started : after.started.length = before.started.length
  token : ∀ id, (after.informer id).token = (before.informer id).token
  type : ∀ id, (after.informer id).type = (before.informer id).type
  synced : ∀ id, (before.informer id).replica.synced = true →
    (after.informer id).replica.synced = true

theorem Steady.refl (informers : Informers η) : informers.Steady informers where
  tokens := rfl
  current := rfl
  started := rfl
  token _ := rfl
  type _ := rfl
  synced _ := id

theorem Steady.find? {before after : Informers η} (steady : before.Steady after)
    (type : ResourceType) : after.find? type = before.find? type := by
  rw [Informers.find?, Informers.find?, steady.current]

theorem Steady.isStopped {before after : Informers η} (steady : before.Steady after)
    (id : InformerId) : after.isStopped id = before.isStopped id := by
  rw [Informers.isStopped, Informers.isStopped, steady.tokens, steady.token]

theorem Owned.of_steady {before after : Informers η} (owned : before.Owned)
    (steady : before.Steady after) : after.Owned where
  used found := by
    rw [steady.find?] at found
    rw [steady.started]
    exact owned.used found
  type found := by
    rw [steady.find?] at found
    rw [steady.type]
    exact owned.type found
  issued used := by
    rw [steady.started] at used
    rw [steady.token, steady.tokens]
    exact owned.issued used
  distinct used otherUsed same := by
    rw [steady.started] at used otherUsed
    rw [steady.token, steady.token] at same
    exact owned.distinct used otherUsed same
  cancelled := by
    rw [steady.tokens]
    exact owned.cancelled
  recorded := by
    rw [steady.tokens]
    exact owned.recorded
  registry isOpen type := by
    rw [steady.tokens] at isOpen
    simp only [steady.tokens, steady.find?, steady.token]
    exact owned.registry isOpen type
  live isOpen type id found := by
    rw [steady.tokens] at isOpen
    rw [steady.find?] at found
    rw [steady.isStopped]
    exact owned.live isOpen found
  owned used going := by
    rw [steady.started] at used
    rw [steady.isStopped] at going
    rw [steady.find?, steady.type]
    exact owned.owned used going

/-- Changing what an informer has taken in or whom it tells. -/
theorem steady_modify (informers : Informers η) (id : InformerId)
    {change : Informer η → Informer η}
    (token : (change (informers.informer id)).token = (informers.informer id).token)
    (type : (change (informers.informer id)).type = (informers.informer id).type)
    (synced : (informers.informer id).replica.synced = true →
      (change (informers.informer id)).replica.synced = true) :
    informers.Steady (informers.modify id change) where
  tokens := rfl
  current := rfl
  started := length_started_modify informers id change
  token := informer_modify_eq informers id Informer.token token
  type := informer_modify_eq informers id Informer.type type
  synced other before := by
    by_cases same : other = id
    · subst same
      by_cases used : other < informers.started.length
      · rw [informer_modify_self used]
        exact synced before
      · rw [informer_of_le (by simpa using used)] at before
        cases before
    · rwa [informer_modify_of_ne informers same]

/-! ## Operations -/

theorem steady_changeClient (informers : Informers η) (client : ClientId) :
    informers.Steady (informers.changeClient client) where
  tokens := rfl
  current := rfl
  started := rfl
  token _ := rfl
  type _ := rfl
  synced _ := id

theorem isStopped_iff {informers : Informers η} {id : InformerId} :
    informers.isStopped id = true ↔ informers.tokens.closed = true ∨
      (informers.informer id).token ∈ informers.tokens.cancelled := Tokens.isCancelled_iff

theorem isStopped_eq_false_iff {informers : Informers η} {id : InformerId} :
    informers.isStopped id = false ↔ informers.tokens.closed = false ∧
      (informers.informer id).token ∉ informers.tokens.cancelled := by
  rw [← Bool.not_eq_true, isStopped_iff, not_or, Bool.not_eq_true]

theorem tokens_start (informers : Informers η) (resource : ApiResource) :
    (informers.start resource).1.tokens =
      (informers.tokens.renew (.ofResource resource)).1 := rfl

/-! ### Starting -/

theorem informer_start_fresh (informers : Informers η) (resource : ApiResource) :
    (informers.start resource).1.informer informers.started.length =
      .start informers.started.length resource informers.tokens.issued := by
  rw [informer_start_self, ← Tokens.token_renew]
  rfl

theorem informer_start_of_lt (informers : Informers η) (resource : ApiResource)
    {id : InformerId} (used : id < informers.started.length) :
    (informers.start resource).1.informer id = informers.informer id :=
  informer_start_of_ne informers resource (Nat.ne_of_lt used)

theorem lt_or_eq_of_lt_start {informers : Informers η} {resource : ApiResource} {id : InformerId}
    (used : id < (informers.start resource).1.started.length) :
    id < informers.started.length ∨ id = informers.started.length := by
  rw [length_started_start] at used
  exact Nat.lt_succ_iff_lt_or_eq.1 used

section Start

variable {informers : Informers η} (owned : informers.Owned) {resource : ApiResource}

include owned

theorem Owned.distinct_start {id other : InformerId}
    (used : id < (informers.start resource).1.started.length)
    (otherUsed : other < (informers.start resource).1.started.length)
    (same : ((informers.start resource).1.informer id).token =
      ((informers.start resource).1.informer other).token) : id = other := by
  rcases lt_or_eq_of_lt_start used with isOld | rfl <;>
    rcases lt_or_eq_of_lt_start otherUsed with otherOld | rfl
  · rw [informer_start_of_lt _ _ isOld, informer_start_of_lt _ _ otherOld] at same
    exact owned.distinct isOld otherOld same
  · rw [informer_start_of_lt _ _ isOld, informer_start_fresh] at same
    exact absurd same (Nat.ne_of_lt (owned.issued isOld))
  · rw [informer_start_of_lt _ _ otherOld, informer_start_fresh] at same
    exact absurd same.symm (Nat.ne_of_lt (owned.issued otherOld))
  · rfl

theorem Owned.registry_start (isOpen : informers.tokens.closed = false) (type : ResourceType) :
    (informers.start resource).1.tokens.current.get? type =
      ((informers.start resource).1.find? type).map fun id =>
        ((informers.start resource).1.informer id).token := by
  rw [tokens_start, Tokens.current_renew, find?_start]
  split
  · rw [Option.map_some, informer_start_fresh]
    rfl
  · rw [owned.registry isOpen]
    cases found : informers.find? type with
    | none => rfl
    | some id =>
        rw [Option.map_some, Option.map_some, informer_start_of_lt _ _ (owned.used found)]

variable (vacant : informers.tokens.closed = false →
  informers.find? (.ofResource resource) = none)

include vacant

theorem Owned.live_start (isOpen : informers.tokens.closed = false) {type : ResourceType}
    {id : InformerId} (found : (informers.start resource).1.find? type = some id) :
    (informers.start resource).1.isStopped id = false := by
  have unrecorded : informers.tokens.current.get? (.ofResource resource) = none := by
    rw [owned.registry isOpen, vacant isOpen]
    rfl
  rw [isStopped_eq_false_iff, tokens_start, Tokens.closed_renew, Tokens.mem_cancelled_renew,
    unrecorded]
  refine ⟨isOpen, ?_⟩
  rintro (onRecord | before)
  · cases onRecord
  · rw [find?_start] at found
    split at found
    · rw [← Option.some.inj found, informer_start_fresh] at before
      exact absurd (owned.cancelled _ before) (Nat.lt_irrefl _)
    · rw [informer_start_of_lt _ _ (owned.used found)] at before
      exact (isStopped_eq_false_iff.1 (owned.live isOpen found)).2 before

theorem Owned.owned_start {id : InformerId}
    (used : id < (informers.start resource).1.started.length)
    (going : (informers.start resource).1.isStopped id = false) :
    (informers.start resource).1.find? ((informers.start resource).1.informer id).type =
      some id := by
  rw [isStopped_eq_false_iff, tokens_start, Tokens.closed_renew, Tokens.mem_cancelled_renew,
    not_or] at going
  obtain ⟨isOpen, _, uncancelled⟩ := going
  rw [find?_start]
  rcases lt_or_eq_of_lt_start used with isOld | rfl
  · rw [informer_start_of_lt _ _ isOld] at uncancelled ⊢
    have found := owned.owned isOld (isStopped_eq_false_iff.2 ⟨isOpen, uncancelled⟩)
    have otherType : (informers.informer id).type ≠ .ofResource resource := by
      intro same
      rw [same, vacant isOpen] at found
      cases found
    rw [if_neg otherType]
    exact found
  · rw [informer_start_fresh]
    exact if_pos rfl

/-- Starting the informer of a type that has none. -/
theorem Owned.start : (informers.start resource).1.Owned := by
  constructor
  case used =>
    intro type id found
    rw [find?_start] at found
    rw [length_started_start]
    split at found
    · rw [← Option.some.inj found]
      exact Nat.lt_succ_self _
    · exact Nat.lt_succ_of_lt (owned.used found)
  case type =>
    intro type id found
    rw [find?_start] at found
    split at found
    · rename_i same
      rw [← Option.some.inj found, informer_start_fresh, same]
      rfl
    · rw [informer_start_of_lt _ _ (owned.used found)]
      exact owned.type found
  case issued =>
    intro id used
    rw [tokens_start, Tokens.issued_renew]
    rcases lt_or_eq_of_lt_start used with isOld | rfl
    · rw [informer_start_of_lt _ _ isOld]
      exact Nat.lt_succ_of_lt (owned.issued isOld)
    · rw [informer_start_fresh]
      exact Nat.lt_succ_self _
  case distinct => exact owned.distinct_start
  case cancelled =>
    intro token member
    rw [tokens_start, Tokens.mem_cancelled_renew] at member
    rw [tokens_start, Tokens.issued_renew]
    rcases member with onRecord | before
    · exact Nat.lt_succ_of_lt (owned.recorded token (Table.mem_values_of_get? onRecord))
    · exact Nat.lt_succ_of_lt (owned.cancelled token before)
  case recorded =>
    intro token member
    rw [tokens_start, Tokens.issued_renew]
    rcases Tokens.mem_values_renew member with rfl | onRecord
    · exact Nat.lt_succ_self _
    · exact Nat.lt_succ_of_lt (owned.recorded token onRecord)
  case registry =>
    intro isOpen
    rw [tokens_start, Tokens.closed_renew] at isOpen
    exact owned.registry_start isOpen
  case live =>
    intro isOpen type id found
    rw [tokens_start, Tokens.closed_renew] at isOpen
    exact owned.live_start vacant isOpen found
  case owned => exact owned.owned_start vacant

end Start

/-- Who cannot be reused has no successor yet, as long as the registry is open. -/
theorem Owned.vacant_of_reusable {informers : Informers η} (owned : informers.Owned)
    {resource : ApiResource} (unusable : informers.reusable? resource = none)
    (isOpen : informers.tokens.closed = false) :
    informers.find? (.ofResource resource) = none := by
  cases found : informers.find? (.ofResource resource) with
  | none => rfl
  | some id =>
      have going := owned.live isOpen found
      simp [reusable?, found, Option.filter, going] at unusable

theorem Owned.obtain {informers : Informers η} (owned : informers.Owned)
    (resource : ApiResource) : (informers.obtain resource).1.Owned := by
  unfold Informers.obtain
  split
  · exact owned
  · rename_i unusable
    exact owned.start fun isOpen => owned.vacant_of_reusable unusable isOpen

/-! ### Stopping -/

theorem tokens_stop (informers : Informers η) (stopped : ResourceType) :
    (informers.stop stopped).1.tokens = (informers.tokens.revoke stopped).1 := rfl

theorem found_of_stop {informers : Informers η} {stopped type : ResourceType} {id : InformerId}
    (found : (informers.stop stopped).1.find? type = some id) :
    informers.find? type = some id ∧ type ≠ stopped := by
  rw [find?_stop] at found
  split at found
  · cases found
  · rename_i different
    exact ⟨found, different⟩

section Stop

variable {informers : Informers η} (owned : informers.Owned) (stopped : ResourceType)

include owned

theorem Owned.live_stop (isOpen : informers.tokens.closed = false) {type : ResourceType}
    {id : InformerId} (found : (informers.stop stopped).1.find? type = some id) :
    (informers.stop stopped).1.isStopped id = false := by
  obtain ⟨before, different⟩ := found_of_stop found
  rw [isStopped_eq_false_iff, tokens_stop, Tokens.closed_revoke, Tokens.mem_cancelled_revoke]
  refine ⟨isOpen, ?_⟩
  rintro (onRecord | already)
  · -- Only the informer of the stopped type has the token that is on record for it.
    rw [owned.registry isOpen, Option.map_eq_some_iff] at onRecord
    obtain ⟨other, otherFound, sameToken⟩ := onRecord
    have same := owned.distinct (owned.used otherFound) (owned.used before) sameToken
    rw [same] at otherFound
    exact different ((owned.type before).symm.trans (owned.type otherFound))
  · exact (isStopped_eq_false_iff.1 (owned.live isOpen before)).2 already

theorem Owned.owned_stop {id : InformerId} (used : id < informers.started.length)
    (going : (informers.stop stopped).1.isStopped id = false) :
    (informers.stop stopped).1.find? (informers.informer id).type = some id := by
  rw [isStopped_eq_false_iff, tokens_stop, Tokens.closed_revoke, Tokens.mem_cancelled_revoke,
    not_or] at going
  obtain ⟨isOpen, unrecorded, uncancelled⟩ := going
  have before := owned.owned used (isStopped_eq_false_iff.2 ⟨isOpen, uncancelled⟩)
  rw [find?_stop]
  split
  · rename_i same
    have onRecord := owned.registry isOpen stopped
    rw [← same, before] at onRecord
    rw [same] at onRecord
    exact absurd onRecord unrecorded
  · exact before

theorem Owned.stop : (informers.stop stopped).1.Owned := by
  constructor
  case used => exact fun found => owned.used (found_of_stop found).1
  case type => exact fun found => owned.type (found_of_stop found).1
  case issued =>
    intro id used
    rw [tokens_stop, Tokens.issued_revoke]
    exact owned.issued used
  case distinct => exact owned.distinct
  case cancelled =>
    intro token member
    rw [tokens_stop, Tokens.issued_revoke]
    rcases Tokens.mem_cancelled_revoke.1 member with onRecord | before
    · exact owned.recorded token (Table.mem_values_of_get? onRecord)
    · exact owned.cancelled token before
  case recorded =>
    intro token member
    rw [tokens_stop, Tokens.issued_revoke]
    exact owned.recorded token (Tokens.mem_values_revoke member)
  case registry =>
    intro isOpen type
    rw [tokens_stop, Tokens.closed_revoke] at isOpen
    rw [tokens_stop, Tokens.current_revoke, find?_stop]
    split
    · rfl
    · exact owned.registry isOpen type
  case live =>
    intro isOpen type id found
    rw [tokens_stop, Tokens.closed_revoke] at isOpen
    exact owned.live_stop stopped isOpen found
  case owned => exact owned.owned_stop stopped

end Stop

theorem Owned.stopAll {informers : Informers η} (owned : informers.Owned) :
    informers.stopAll.1.Owned where
  used found := by cases found
  type found := by cases found
  issued := owned.issued
  distinct := owned.distinct
  cancelled token member := by
    rcases List.mem_append.1 member with onRecord | before
    · exact owned.recorded token onRecord
    · exact owned.cancelled token before
  recorded _ member := absurd member List.not_mem_nil
  registry _ _ := rfl
  live _ _ _ found := by cases found
  owned := by
    intro id used going
    obtain ⟨isOpen, uncancelled⟩ := isStopped_eq_false_iff.1 going
    have fresh := fun before => uncancelled (List.mem_append_right _ before)
    have found := owned.owned used (isStopped_eq_false_iff.2 ⟨isOpen, fresh⟩)
    have onRecord := owned.registry isOpen (informers.informer id).type
    rw [found] at onRecord
    exact absurd (List.mem_append_left _ (Table.mem_values_of_get? onRecord)) uncancelled

/-- Stopping a type stops every informer of the type. -/
theorem Owned.isStopped_stop {informers : Informers η} (owned : informers.Owned)
    {id : InformerId} (used : id < informers.started.length) :
    (informers.stop (informers.informer id).type).1.isStopped id = true := by
  by_contra going
  have found := owned.owned_stop (informers.informer id).type used (by simpa using going)
  rw [find?_stop, if_pos rfl] at found
  cases found

/-- Stopping all stops everybody. -/
theorem Owned.isStopped_stopAll {informers : Informers η} (owned : informers.Owned)
    {id : InformerId} (used : id < informers.started.length) :
    informers.stopAll.1.isStopped id = true := by
  by_contra going
  have found := owned.stopAll.owned used (by simpa using going)
  cases found

/-- Once the registry is closed every informer is stopped, so none is unowned. -/
theorem Owned.shutdown {informers : Informers η} (owned : informers.Owned) :
    informers.shutdown.Owned where
  used := owned.used
  type := owned.type
  issued := owned.issued
  distinct := owned.distinct
  cancelled token member := by
    rcases List.mem_append.1 member with onRecord | before
    · exact owned.recorded token onRecord
    · exact owned.cancelled token before
  recorded _ member := absurd member List.not_mem_nil
  registry isOpen := by cases isOpen
  live isOpen := by cases isOpen
  owned _ going := by cases (isStopped_eq_false_iff.1 going).1

/-! ## What stays current -/

/-- Who is current stays so, every informer keeps its type, and who was synced still is. -/
structure Keeps (before after : Informers η) : Prop where
  started : before.started.length ≤ after.started.length
  found : ∀ {type id}, before.find? type = some id → after.find? type = some id
  type : ∀ {id}, id < before.started.length →
    (after.informer id).type = (before.informer id).type
  synced : ∀ id, (before.informer id).replica.synced = true →
    (after.informer id).replica.synced = true

theorem Steady.keeps {before after : Informers η} (steady : before.Steady after) :
    before.Keeps after where
  started := Nat.le_of_eq steady.started.symm
  found found := by rwa [steady.find?]
  type _ := steady.type _
  synced := steady.synced

/-- The informer for a resource is the current one of its type from then on. -/
theorem find?_obtain (informers : Informers η) (resource : ApiResource) :
    (informers.obtain resource).1.find? (.ofResource resource) =
      some (informers.obtain resource).2.1 := by
  unfold Informers.obtain
  cases reused : informers.reusable? resource with
  | some id => exact (Option.filter_eq_some_iff.1 reused).1
  | none =>
      rw [find?_start, if_pos rfl]
      rfl

/-- A live informer is the one for the resources of its type. -/
theorem Owned.obtain_of_live {informers : Informers η} (owned : informers.Owned)
    {id : InformerId} (used : id < informers.started.length)
    (live : informers.isStopped id = false) {resource : ApiResource}
    (type : (informers.informer id).type = .ofResource resource) :
    informers.obtain resource = (informers, id, false) := by
  have found := owned.owned used live
  rw [type] at found
  have reused : informers.reusable? resource = some id :=
    Option.filter_eq_some_iff.2 ⟨found, by simpa using live⟩
  simp only [Informers.obtain, reused]

/-- The informer for a resource is the current one of its type, and no other ceases to be
current. -/
theorem Owned.keeps_obtain {informers : Informers η} (owned : informers.Owned)
    (isOpen : informers.tokens.closed = false) (resource : ApiResource) :
    informers.Keeps (informers.obtain resource).1 ∧
      (informers.obtain resource).1.find? (.ofResource resource) =
        some (informers.obtain resource).2.1 ∧
      (informers.obtain resource).1.tokens.closed = false := by
  have continues := continues_obtain informers resource
  have synced : ∀ id, (informers.informer id).replica.synced = true →
      ((informers.obtain resource).1.informer id).replica.synced = true := by
    intro id before
    rwa [continues.replica]
  have current := find?_obtain informers resource
  unfold Informers.obtain at synced current ⊢
  cases reused : informers.reusable? resource with
  | some id =>
      simp only [reused] at current
      exact ⟨(Steady.refl informers).keeps, current, isOpen⟩
  | none =>
      have vacant := owned.vacant_of_reusable reused isOpen
      simp only [reused] at synced current
      refine ⟨⟨?_, ?_, ?_, synced⟩, current, ?_⟩
      · rw [length_started_start]
        exact Nat.le_succ _
      · intro type id found
        rw [find?_start]
        split
        · rename_i same
          rw [same, vacant] at found
          cases found
        · exact found
      · intro id used
        rw [informer_start_of_ne informers resource (Nat.ne_of_lt used)]
      · rw [tokens_start, Tokens.closed_renew]
        exact isOpen

/-- Stopping one type leaves the informers of the others current. -/
theorem find?_stop_of_ne (informers : Informers η) {stopped type : ResourceType}
    (different : type ≠ stopped) :
    (informers.stop stopped).1.find? type = informers.find? type := by
  rw [find?_stop, if_neg different]

/-! ## Kinds -/

/-- The informer is the current one of the type that the kind is served as, and goes on. -/
def Serves (typeOf : GroupVersionKind → Option ResourceType) (informers : Informers η)
    (kind : GroupVersionKind) (id : InformerId) : Prop :=
  ∃ type, typeOf kind = some type ∧ informers.find? type = some id ∧
    informers.isStopped id = false

variable {typeOf : GroupVersionKind → Option ResourceType} {kind : GroupVersionKind}

theorem Serves.unique {informers : Informers η} {id other : InformerId}
    (serves : informers.Serves typeOf kind id) (otherServes : informers.Serves typeOf kind other) :
    id = other := by
  obtain ⟨type, mapped, found, _⟩ := serves
  obtain ⟨otherType, otherMapped, otherFound, _⟩ := otherServes
  rw [mapped] at otherMapped
  rw [← Option.some.inj otherMapped, found] at otherFound
  exact Option.some.inj otherFound

/-- Whatever is current after an operation, while the registry is open, goes on. -/
theorem Serves.of_found {before after : Informers η} (owned : after.Owned)
    (isOpen : after.tokens.closed = false)
    (found : ∀ {type id}, typeOf kind = some type → before.find? type = some id →
      after.find? type = some id)
    {id : InformerId} (serves : before.Serves typeOf kind id) : after.Serves typeOf kind id := by
  obtain ⟨type, mapped, foundBefore, _⟩ := serves
  have foundAfter := found mapped foundBefore
  exact ⟨type, mapped, foundAfter, owned.live isOpen foundAfter⟩

end ClusterCache.Informers
