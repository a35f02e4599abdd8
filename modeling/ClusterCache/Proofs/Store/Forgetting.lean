import ClusterCache.Proofs.Informers.Ownership
import ClusterCache.Proofs.Store.Spelling

/-!
# What is left when kinds are forgotten

To forget a kind stops one resource type and takes the kind out of the records. What is left after
several kinds is described by which kinds are gone and which types have ended, whatever the order in
which that came about; so two ways to forget the same kinds lead to the same holdings, except for
the order in which tables list them.
-/

namespace ClusterCache.Holdings

/-! ## Holdings with the same content -/

/-- The holdings have the same content, as far as any lookup can tell. -/
structure Alike (left right : Holdings) : Prop where
  current : ∀ type, left.informers.current.get? type = right.informers.current.get? type
  recorded : ∀ type,
    left.informers.tokens.current.get? type = right.informers.tokens.current.get? type
  cancelled : ∀ token,
    left.informers.tokens.isCancelled token = right.informers.tokens.isCancelled token
  issued : left.informers.tokens.issued = right.informers.tokens.issued
  closed : left.informers.tokens.closed = right.informers.tokens.closed
  started : left.informers.started = right.informers.started
  client : left.informers.client = right.informers.client
  ns : left.informers.ns = right.informers.ns
  loading : ∀ text, left.loading.entries.get? text = right.loading.entries.get? text
  usage : ∀ ns kind, left.usage.noted? ns kind = right.usage.noted? ns kind
  stopped : left.stopped = right.stopped
  waiters : left.waiters = right.waiters
  waitersStarted : left.waitersStarted = right.waitersStarted
  registrations : left.registrations = right.registrations

/-! ## Forgetting -/

/-- The entry was made for one of the kinds. -/
def IsFor (gone : GroupVersionKind → Prop) (entry : ScopeEntry) : Prop :=
  ∃ kind, gone kind ∧ entry.apiVersion = kind.apiVersion ∧ entry.kind = kind.kind

/-- From one state of the holdings to another certain kinds are gone and certain types have ended,
and nothing else has changed. -/
structure Forgets (gone : GroupVersionKind → Prop) (ended : ResourceType → Prop)
    (before after : Holdings) : Prop where
  current : ∀ type entry, after.informers.current.get? type = some entry ↔
    ∃ old, before.informers.current.get? type = some old ∧
      (ended type ∧ entry = none ∨ ¬ ended type ∧ entry = old)
  recorded : ∀ type token, after.informers.tokens.current.get? type = some token ↔
    before.informers.tokens.current.get? type = some token ∧ ¬ ended type
  cancelled : ∀ token, after.informers.tokens.isCancelled token = true ↔
    before.informers.tokens.isCancelled token = true ∨
      ∃ type, ended type ∧ before.informers.tokens.current.get? type = some token
  issued : after.informers.tokens.issued = before.informers.tokens.issued
  closed : after.informers.tokens.closed = before.informers.tokens.closed
  started : after.informers.started = before.informers.started
  client : after.informers.client = before.informers.client
  ns : after.informers.ns = before.informers.ns
  loading : ∀ text entry, after.loading.entries.get? text = some entry ↔
    before.loading.entries.get? text = some entry ∧ ¬ IsFor gone entry
  usage : ∀ ns kind used, after.usage.noted? ns kind = some used ↔
    before.usage.noted? ns kind = some used ∧ ¬ gone kind
  stopped : after.stopped = before.stopped
  waiters : after.waiters = before.waiters
  waitersStarted : after.waitersStarted = before.waitersStarted
  registrations : after.registrations = before.registrations

namespace Forgets

variable {gone goneLater : GroupVersionKind → Prop} {ended endedLater : ResourceType → Prop}
  {first second third before after : Holdings}

/-- Nothing was forgotten. -/
theorem refl (held : Holdings) : held.Forgets (fun _ => False) (fun _ => False) held where
  current := by simp
  recorded := by simp
  cancelled := by simp
  issued := rfl
  closed := rfl
  started := rfl
  client := rfl
  ns := rfl
  loading := by simp [IsFor]
  usage := by simp
  stopped := rfl
  waiters := rfl
  waitersStarted := rfl
  registrations := rfl

/-- What was forgotten first and what was forgotten later is gone in the end. -/
theorem trans (left : first.Forgets gone ended second)
    (right : second.Forgets goneLater endedLater third) :
    first.Forgets (fun kind => gone kind ∨ goneLater kind)
      (fun type => ended type ∨ endedLater type) third where
  current type entry := by
    rw [right.current]
    constructor
    · rintro ⟨middle, inSecond, later⟩
      obtain ⟨old, inFirst, earlier⟩ := (left.current type middle).1 inSecond
      refine ⟨old, inFirst, ?_⟩
      grind
    · rintro ⟨old, inFirst, cases⟩
      by_cases isEnded : ended type
      · exact ⟨none, (left.current type none).2 ⟨old, inFirst, Or.inl ⟨isEnded, rfl⟩⟩, by grind⟩
      · exact ⟨old, (left.current type old).2 ⟨old, inFirst, Or.inr ⟨isEnded, rfl⟩⟩, by grind⟩
  recorded type token := by
    rw [right.recorded, left.recorded, not_or, and_assoc]
  cancelled token := by
    rw [right.cancelled, left.cancelled]
    constructor
    · rintro ((before | ⟨type, isEnded, onRecord⟩) | ⟨type, isEnded, onRecord⟩)
      · exact Or.inl before
      · exact Or.inr ⟨type, Or.inl isEnded, onRecord⟩
      · exact Or.inr ⟨type, Or.inr isEnded, ((left.recorded type token).1 onRecord).1⟩
    · rintro (before | ⟨type, isEnded, onRecord⟩)
      · exact Or.inl (Or.inl before)
      · by_cases already : ended type
        · exact Or.inl (Or.inr ⟨type, already, onRecord⟩)
        · have endsLater := isEnded.resolve_left already
          exact Or.inr ⟨type, endsLater, (left.recorded type token).2 ⟨onRecord, already⟩⟩
  issued := right.issued.trans left.issued
  closed := right.closed.trans left.closed
  started := right.started.trans left.started
  client := right.client.trans left.client
  ns := right.ns.trans left.ns
  loading text entry := by
    have both : IsFor (fun kind => gone kind ∨ goneLater kind) entry ↔
        IsFor gone entry ∨ IsFor goneLater entry := by
      simp only [IsFor, or_and_right, exists_or]
    rw [right.loading, left.loading, both, not_or, and_assoc]
  usage ns kind used := by
    rw [right.usage, left.usage, not_or, and_assoc]
  stopped := right.stopped.trans left.stopped
  waiters := right.waiters.trans left.waiters
  waitersStarted := right.waitersStarted.trans left.waitersStarted
  registrations := right.registrations.trans left.registrations

/-- What is left is determined by what is gone. -/
theorem alike (left : before.Forgets gone ended first) (right : before.Forgets gone ended second) :
    first.Alike second where
  current type := Option.ext fun entry => by rw [left.current, right.current]
  recorded type := Option.ext fun token => by rw [left.recorded, right.recorded]
  cancelled token := Bool.eq_iff_iff.2 (by rw [left.cancelled, right.cancelled])
  issued := left.issued.trans right.issued.symm
  closed := left.closed.trans right.closed.symm
  started := left.started.trans right.started.symm
  client := left.client.trans right.client.symm
  ns := left.ns.trans right.ns.symm
  loading text := Option.ext fun entry => by rw [left.loading, right.loading]
  usage ns kind := Option.ext fun used => by rw [left.usage, right.usage]
  stopped := left.stopped.trans right.stopped.symm
  waiters := left.waiters.trans right.waiters.symm
  waitersStarted := left.waitersStarted.trans right.waitersStarted.symm
  registrations := left.registrations.trans right.registrations.symm

theorem congr (forgets : before.Forgets gone ended after)
    (sameKinds : ∀ kind, gone kind ↔ goneLater kind)
    (sameTypes : ∀ type, ended type ↔ endedLater type) :
    before.Forgets goneLater endedLater after := by
  have kinds : gone = goneLater := funext fun kind => propext (sameKinds kind)
  have types : ended = endedLater := funext fun type => propext (sameTypes type)
  rw [← kinds, ← types]
  exact forgets

end Forgets

/-- Stopping a type leaves its entry without an informer, and all others as they were. -/
theorem current_stop (informers : Informers Listener) (stopped type : ResourceType) :
    (informers.stop stopped).1.current.get? type =
      if type = stopped then (informers.current.get? type).map fun _ => none
      else informers.current.get? type := by
  by_cases known : informers.current.contains stopped = true
  · simp only [Informers.stop, known, if_true, Table.get?_insert]
    split
    · rename_i same
      obtain ⟨entry, stored⟩ := Option.isSome_iff_exists.1 known
      rw [same, stored]
      rfl
    · rfl
  · have missing : informers.current.get? stopped = none := by
      simpa [Table.contains] using known
    simp only [Informers.stop, known]
    by_cases same : type = stopped
    · simp [same, missing]
    · simp [same]

/-- Forgetting one kind, served as a resource, lets the kind be gone and the type of the resource
be ended. -/
theorem forgets_forgetKind {store : Store} (spelled : store.holdings.Spelled)
    (kind : GroupVersionKind) (resource : ApiResource) :
    store.holdings.Forgets (fun other => other = kind) (fun type => type = .ofResource resource)
      (store.forgetKind kind resource).holdings where
  current type entry := by
    have current := current_stop store.informers (.ofResource resource) type
    change (store.informers.stop (.ofResource resource)).1.current.get? type = some entry ↔
      ∃ old, store.informers.current.get? type = some old ∧ _
    rw [current]
    by_cases same : type = .ofResource resource
    · subst same
      cases store.informers.current.get? (.ofResource resource) with
      | none => simp
      | some old => simp [eq_comm]
    · simp [same]
  recorded type token := by
    have recorded := Tokens.current_revoke store.informers.tokens (.ofResource resource) type
    change (store.informers.tokens.revoke (.ofResource resource)).1.current.get? type =
      some token ↔ store.informers.tokens.current.get? type = some token ∧ _
    rw [recorded]
    by_cases same : type = .ofResource resource
    · simp [same]
    · simp [same]
  cancelled token := by
    change (store.informers.tokens.revoke (.ofResource resource)).1.isCancelled token = true ↔
      store.informers.tokens.isCancelled token = true ∨
        ∃ type, _ ∧ store.informers.tokens.current.get? type = some token
    rw [Tokens.isCancelled_revoke, or_comm]
    simp
  issued := Tokens.issued_revoke _ _
  closed := Tokens.closed_revoke _ _
  started := rfl
  client := rfl
  ns := rfl
  loading text entry := by
    have distinct : store.loading.entries.Distinct := spelled.scopes
    change (store.loading.forgetKind kind.apiVersion kind.kind).entries.get? text = some entry ↔
      store.loading.entries.get? text = some entry ∧ _
    rw [Loading.get?_forgetKind distinct, Option.filter_eq_some_iff]
    simp [IsFor, Loading.isOf, imp_iff_not_or]
  usage ns other used := by
    have distinct : store.usage.scopes.Distinct := spelled.kinds
    change (store.usage.forgetKind kind).noted? ns other = some used ↔
      store.usage.noted? ns other = some used ∧ _
    rw [Usage.noted?_forgetKind distinct]
    by_cases same : other = kind
    · simp [same]
    · simp [same]
  stopped := rfl
  waiters := rfl
  waitersStarted := rfl
  registrations := rfl

end ClusterCache.Holdings
