import ClusterCache.Proofs.Handlers.Registration
import ClusterCache.Proofs.Informers.Lookup
import ClusterCache.Proofs.Tokens.Cancellation

/-!
# What no operation undoes

Informers are never forgotten, keep their token and their type, do not get back registrations that
were removed, and stay stopped. Apart from a loop that takes in an item, nothing touches the replica
of an informer.
-/

namespace ClusterCache.Informers

variable {η : Type}

/-- Every informer numbers its registrations under its own number. -/
structure Numbered (informers : Informers η) : Prop where
  handlers : ∀ id, (informers.informer id).handlers.Numbered
  owner : ∀ id, id < informers.started.length → (informers.informer id).handlers.owner = id

theorem numbered_empty (client : ClientId) (ns : Option String) :
    (empty client ns : Informers η).Numbered where
  handlers _ := Handlers.numbered_empty 0
  owner _ used := absurd used (Nat.not_lt_zero _)

/-- No informer is forgotten, gets another token or type or gets back a registration, and what is
stopped stays stopped. -/
structure Persists (before after : Informers η) : Prop where
  started : before.started.length ≤ after.started.length
  token : ∀ id, id < before.started.length →
    (after.informer id).token = (before.informer id).token
  type : ∀ id, id < before.started.length →
    (after.informer id).type = (before.informer id).type
  handlers : ∀ id, id < before.started.length →
    (before.informer id).handlers.Continues (after.informer id).handlers
  numbered : before.Numbered → after.Numbered
  tokens : before.tokens.Continues after.tokens

theorem Persists.refl (informers : Informers η) : informers.Persists informers where
  started := Nat.le_refl _
  token _ _ := rfl
  type _ _ := rfl
  handlers _ _ := Handlers.Continues.refl _
  numbered := id
  tokens := Tokens.Continues.refl _

theorem Persists.trans {first second third : Informers η} (left : first.Persists second)
    (right : second.Persists third) : first.Persists third where
  started := Nat.le_trans left.started right.started
  token id used :=
    (right.token id (Nat.lt_of_lt_of_le used left.started)).trans (left.token id used)
  type id used :=
    (right.type id (Nat.lt_of_lt_of_le used left.started)).trans (left.type id used)
  handlers id used :=
    (left.handlers id used).trans (right.handlers id (Nat.lt_of_lt_of_le used left.started))
  numbered := right.numbered ∘ left.numbered
  tokens := left.tokens.trans right.tokens

theorem Persists.isStopped {before after : Informers η} (persists : before.Persists after)
    {id : InformerId} (used : id < before.started.length)
    (stopped : before.isStopped id = true) : after.isStopped id = true := by
  rw [Informers.isStopped, persists.token id used]
  exact persists.tokens _ stopped

/-- A registration that is there later, under a number already given out, is there now. -/
theorem Persists.mem_of_mem {before after : Informers η} (persists : before.Persists after)
    {id : InformerId} (used : id < before.started.length) {subscription : Subscription η}
    (old : subscription.id.serial < (before.informer id).handlers.issued)
    (member : subscription ∈ (after.informer id).handlers.subscriptions) :
    subscription ∈ (before.informer id).handlers.subscriptions :=
  (persists.handlers id used).kept subscription member old

/-- Besides, no item was taken in. -/
structure Continues (before after : Informers η) : Prop extends Persists before after where
  replica : ∀ id, (after.informer id).replica = (before.informer id).replica

theorem Continues.refl (informers : Informers η) : informers.Continues informers where
  toPersists := Persists.refl informers
  replica _ := rfl

theorem Continues.trans {first second third : Informers η} (left : first.Continues second)
    (right : second.Continues third) : first.Continues third where
  toPersists := left.toPersists.trans right.toPersists
  replica id := (right.replica id).trans (left.replica id)

/-- Changing one informer's registrations as registrations may change. -/
theorem persists_modify (informers : Informers η) (id : InformerId)
    {change : Informer η → Informer η}
    (token : (change (informers.informer id)).token = (informers.informer id).token)
    (type : (change (informers.informer id)).type = (informers.informer id).type)
    (handlers : (informers.informer id).handlers.Continues
      (change (informers.informer id)).handlers) :
    informers.Persists (informers.modify id change) := by
  have eachContinues : ∀ other, (informers.informer other).handlers.Continues
      ((informers.modify id change).informer other).handlers := by
    intro other
    by_cases same : other = id
    · subst same
      by_cases used : other < informers.started.length
      · rw [informer_modify_self used]
        exact handlers
      · rw [informer_of_le (by simpa using used), informer_of_le (by simpa using used)]
        exact Handlers.Continues.refl _
    · rw [informer_modify_of_ne informers same]
      exact Handlers.Continues.refl _
  exact
    { started := by simp
      token := fun other _ => informer_modify_eq informers id Informer.token token other
      type := fun other _ => informer_modify_eq informers id Informer.type type other
      handlers := fun other _ => eachContinues other
      numbered := fun numbered =>
        { handlers := fun other => (eachContinues other).numbered (numbered.handlers other)
          owner := fun other used =>
            (eachContinues other).owner.trans (numbered.owner other (by simpa using used)) }
      tokens := Tokens.Continues.refl _ }

theorem continues_modify (informers : Informers η) (id : InformerId)
    {change : Informer η → Informer η}
    (replica : (change (informers.informer id)).replica = (informers.informer id).replica)
    (token : (change (informers.informer id)).token = (informers.informer id).token)
    (type : (change (informers.informer id)).type = (informers.informer id).type)
    (handlers : (informers.informer id).handlers.Continues
      (change (informers.informer id)).handlers) :
    informers.Continues (informers.modify id change) where
  toPersists := persists_modify informers id token type handlers
  replica := informer_modify_eq informers id Informer.replica replica

theorem continues_setHandlers (informers : Informers η) (id : InformerId)
    {handlers : Handlers η}
    (continues : (informers.informer id).handlers.Continues handlers) :
    informers.Continues (informers.modify id fun informer => { informer with handlers }) :=
  continues_modify informers id rfl rfl rfl continues

theorem continues_send (informers : Informers η) (id : InformerId) (item : StreamItem) :
    informers.Continues (informers.modify id fun informer => informer.send item) := by
  refine continues_modify informers id (Informer.replica_send _ item)
    (Informer.token_send _ item) (Informer.type_send _ item) ?_
  rw [Informer.handlers_send]
  exact Handlers.Continues.refl _

theorem continues_start (informers : Informers η) (resource : ApiResource) :
    informers.Continues (informers.start resource).1 where
  started := by simp
  replica id := by
    by_cases isNew : id = informers.started.length
    · subst isNew
      rw [informer_start_self, informer_of_le (Nat.le_refl _)]
      rfl
    · rw [informer_start_of_ne informers resource isNew]
  token id used := by rw [informer_start_of_ne informers resource (Nat.ne_of_lt used)]
  type id used := by rw [informer_start_of_ne informers resource (Nat.ne_of_lt used)]
  handlers id used := by
    rw [informer_start_of_ne informers resource (Nat.ne_of_lt used)]
    exact Handlers.Continues.refl _
  numbered numbered := by
    constructor
    · intro id
      by_cases isNew : id = informers.started.length
      · subst isNew
        rw [informer_start_self]
        exact Handlers.numbered_empty _
      · rw [informer_start_of_ne informers resource isNew]
        exact numbered.handlers id
    · intro id used
      by_cases isNew : id = informers.started.length
      · subst isNew
        rw [informer_start_self]
        rfl
      · rw [informer_start_of_ne informers resource isNew]
        rw [length_started_start] at used
        exact numbered.owner id (by omega)
  tokens := (Tokens.continues_revoke _ _).trans (Tokens.continues_issue _ _)

theorem continues_obtain (informers : Informers η) (resource : ApiResource) :
    informers.Continues (informers.obtain resource).1 := by
  unfold obtain
  split
  · exact Continues.refl informers
  · exact continues_start informers resource

/-- Changing only the tokens, so that what was cancelled stays so, and which informers are
current. -/
theorem continues_of_tokens (informers : Informers η) {tokens : Tokens}
    (continues : informers.tokens.Continues tokens)
    (current : Table ResourceType (Option InformerId)) :
    informers.Continues { informers with tokens, current } where
  started := Nat.le_refl _
  replica _ := rfl
  token _ _ := rfl
  type _ _ := rfl
  handlers _ _ := Handlers.Continues.refl _
  numbered numbered := ⟨numbered.handlers, numbered.owner⟩
  tokens := continues

theorem continues_stop (informers : Informers η) (type : ResourceType) :
    informers.Continues (informers.stop type).1 :=
  continues_of_tokens informers (Tokens.continues_revoke _ _) _

theorem continues_stopAll (informers : Informers η) :
    informers.Continues informers.stopAll.1 :=
  continues_of_tokens informers (Tokens.continues_revokeAll _) _

theorem continues_shutdown (informers : Informers η) :
    informers.Continues informers.shutdown :=
  continues_of_tokens informers (Tokens.continues_shutdown _) informers.current

theorem continues_changeClient (informers : Informers η) (client : ClientId) :
    informers.Continues (informers.changeClient client) :=
  { Continues.refl informers with
    numbered := fun numbered => ⟨numbered.handlers, numbered.owner⟩ }

end ClusterCache.Informers
