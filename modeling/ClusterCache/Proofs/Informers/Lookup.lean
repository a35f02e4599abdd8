import ClusterCache.Informers

/-!
# Single informers after an operation

Informers are known by number. Changing one leaves the others as they were, and starting one leaves
all earlier ones as they were; a number that was not given out yet stands for an informer that has
taken nothing.
-/

namespace ClusterCache

section Stream

variable {η : Type} (informer : Informer η) (item : StreamItem)

@[simp] theorem Informer.replica_send : (informer.send item).replica = informer.replica := by
  unfold send
  split <;> rfl

@[simp] theorem Informer.token_send : (informer.send item).token = informer.token := by
  unfold send
  split <;> rfl

@[simp] theorem Informer.handlers_send : (informer.send item).handlers = informer.handlers := by
  unfold send
  split <;> rfl

@[simp] theorem Informer.type_send : (informer.send item).type = informer.type := by
  unfold send
  split <;> rfl

end Stream

namespace Informers

variable {η : Type}

theorem informer_of_le {informers : Informers η} {id : InformerId}
    (unused : informers.started.length ≤ id) : informers.informer id = default := by
  rw [informer, List.getElem?_eq_none unused]

@[simp] theorem length_started_modify (informers : Informers η) (id : InformerId)
    (change : Informer η → Informer η) :
    (informers.modify id change).started.length = informers.started.length := by
  simp [modify]

theorem informer_modify_self {informers : Informers η} {id : InformerId}
    (used : id < informers.started.length) (change : Informer η → Informer η) :
    (informers.modify id change).informer id = change (informers.informer id) := by
  simp [informer, modify, used]

theorem informer_modify_of_ne (informers : Informers η) {id other : InformerId}
    (different : other ≠ id) (change : Informer η → Informer η) :
    (informers.modify id change).informer other = informers.informer other := by
  simp [informer, modify, Ne.symm different]

/-- What a change leaves alone in every informer, `modify` leaves alone. -/
theorem informer_modify_eq {α : Type} (informers : Informers η) (id : InformerId)
    {change : Informer η → Informer η} (part : Informer η → α)
    (kept : part (change (informers.informer id)) = part (informers.informer id))
    (other : InformerId) :
    part ((informers.modify id change).informer other) = part (informers.informer other) := by
  by_cases same : other = id
  · subst same
    by_cases used : other < informers.started.length
    · rw [informer_modify_self used, kept]
    · rw [informer_of_le (by simpa using used), informer_of_le (by simpa using used)]
  · rw [informer_modify_of_ne informers same]

@[simp] theorem length_started_start (informers : Informers η) (resource : ApiResource) :
    (informers.start resource).1.started.length = informers.started.length + 1 := by
  simp [start]

theorem informer_start_self (informers : Informers η) (resource : ApiResource) :
    (informers.start resource).1.informer informers.started.length =
      .start informers.started.length resource
        ((informers.tokens.revoke (.ofResource resource)).1.issue (.ofResource resource)).2 := by
  simp [informer, start]

theorem informer_start_of_ne (informers : Informers η) (resource : ApiResource)
    {id : InformerId} (different : id ≠ informers.started.length) :
    (informers.start resource).1.informer id = informers.informer id := by
  rcases Nat.lt_or_gt_of_ne different with old | unused
  · simp [informer, start, List.getElem?_append_left old]
  · have beyond : (informers.start resource).1.started.length ≤ id := by
      rw [length_started_start]
      exact unused
    rw [informer_of_le (Nat.le_of_lt unused), informer_of_le beyond]

theorem find?_start (informers : Informers η) (resource : ApiResource) (type : ResourceType) :
    (informers.start resource).1.find? type =
      if type = .ofResource resource then some informers.started.length
      else informers.find? type := by
  simp only [find?, start, Table.get?_insert]
  split <;> rfl

theorem find?_stop (informers : Informers η) (stopped type : ResourceType) :
    (informers.stop stopped).1.find? type =
      if type = stopped then none else informers.find? type := by
  by_cases known : informers.current.contains stopped = true
  · simp only [find?, stop, known, if_true, Table.get?_insert]
    split <;> rfl
  · have missing : informers.current.get? stopped = none := by
      simpa [Table.contains] using known
    simp only [find?, stop, known]
    by_cases same : type = stopped
    · simp [same, missing]
    · simp [same]

end Informers

end ClusterCache
