import ClusterCache.Proofs.Table.Keys
import ClusterCache.Tokens

/-!
# Which tokens are cancelled

Every operation on the registry cancels certain tokens and leaves all others as they were; a
cancelled token stays cancelled.
-/

namespace ClusterCache.Tokens

theorem isCancelled_iff {tokens : Tokens} {token : TokenId} :
    tokens.isCancelled token = true ↔ tokens.closed = true ∨ token ∈ tokens.cancelled := by
  simp [isCancelled]

theorem isCancelled_cancel {tokens : Tokens} {token other : TokenId} :
    (tokens.cancel token).isCancelled other = true ↔
      other = token ∨ tokens.isCancelled other = true := by
  simp only [isCancelled_iff, cancel, List.mem_cons]
  exact or_left_comm

/-- Revoking a type cancels the token on its record and no other. -/
theorem isCancelled_revoke {tokens : Tokens} {type : ResourceType} {token : TokenId} :
    (tokens.revoke type).1.isCancelled token = true ↔
      tokens.current.get? type = some token ∨ tokens.isCancelled token = true := by
  cases recorded : tokens.current.get? type with
  | none => simp [revoke, recorded]
  | some previous =>
      have same : (tokens.revoke type).1.isCancelled token =
          (tokens.cancel previous).isCancelled token := by
        simp [revoke, recorded, isCancelled]
      rw [same, isCancelled_cancel, Option.some.injEq, eq_comm]

/-- Issuing a token for a type without one cancels nothing. -/
theorem isCancelled_issue_of_none {tokens : Tokens} {type : ResourceType}
    (unrecorded : tokens.current.get? type = none) (token : TokenId) :
    (tokens.issue type).1.isCancelled token = tokens.isCancelled token := by
  simp [issue, unrecorded, isCancelled]

theorem current_revoke (tokens : Tokens) (type other : ResourceType) :
    (tokens.revoke type).1.current.get? other =
      if other = type then none else tokens.current.get? other := by
  cases recorded : tokens.current.get? type with
  | none =>
      by_cases same : other = type
      · simp [revoke, recorded, same]
      · simp [revoke, recorded, same]
  | some previous => simp [revoke, recorded, Table.get?_erase]

theorem issued_revoke (tokens : Tokens) (type : ResourceType) :
    (tokens.revoke type).1.issued = tokens.issued := by
  cases recorded : tokens.current.get? type <;> simp [revoke, recorded, cancel]

theorem closed_revoke (tokens : Tokens) (type : ResourceType) :
    (tokens.revoke type).1.closed = tokens.closed := by
  cases recorded : tokens.current.get? type <;> simp [revoke, recorded, cancel]

theorem mem_cancelled_revoke {tokens : Tokens} {type : ResourceType} {token : TokenId} :
    token ∈ (tokens.revoke type).1.cancelled ↔
      tokens.current.get? type = some token ∨ token ∈ tokens.cancelled := by
  cases recorded : tokens.current.get? type with
  | none => simp [revoke, recorded]
  | some previous => simp [revoke, recorded, cancel, eq_comm]

/-- A fresh token for a type, in place of the one on record. -/
def renew (tokens : Tokens) (type : ResourceType) : Tokens × TokenId :=
  (tokens.revoke type).1.issue type

theorem token_renew (tokens : Tokens) (type : ResourceType) :
    (tokens.renew type).2 = tokens.issued := issued_revoke tokens type

theorem current_revoke_self (tokens : Tokens) (type : ResourceType) :
    (tokens.revoke type).1.current.get? type = none := by
  rw [current_revoke, if_pos rfl]

theorem issued_renew (tokens : Tokens) (type : ResourceType) :
    (tokens.renew type).1.issued = tokens.issued + 1 := by
  simp [renew, issue, current_revoke_self, issued_revoke]

theorem closed_renew (tokens : Tokens) (type : ResourceType) :
    (tokens.renew type).1.closed = tokens.closed := by
  simp [renew, issue, current_revoke_self, closed_revoke]

theorem current_renew (tokens : Tokens) (type other : ResourceType) :
    (tokens.renew type).1.current.get? other =
      if other = type then some tokens.issued else tokens.current.get? other := by
  simp only [renew, issue, current_revoke_self, issued_revoke, Table.get?_insert,
    current_revoke]
  split <;> rfl

/-- Only the token on record before is cancelled. -/
theorem mem_cancelled_renew {tokens : Tokens} {type : ResourceType} {token : TokenId} :
    token ∈ (tokens.renew type).1.cancelled ↔
      tokens.current.get? type = some token ∨ token ∈ tokens.cancelled := by
  simp [renew, issue, current_revoke_self, mem_cancelled_revoke]

theorem mem_values_revoke {tokens : Tokens} {type : ResourceType} {token : TokenId}
    (member : token ∈ (tokens.revoke type).1.current.values) : token ∈ tokens.current.values := by
  cases recorded : tokens.current.get? type with
  | none => simpa [revoke, recorded] using member
  | some previous =>
      simp only [revoke, recorded] at member
      exact Table.mem_values_erase member

theorem mem_values_renew {tokens : Tokens} {type : ResourceType} {token : TokenId}
    (member : token ∈ (tokens.renew type).1.current.values) :
    token = tokens.issued ∨ token ∈ tokens.current.values := by
  simp only [renew, issue, current_revoke_self, issued_revoke] at member
  rcases Table.mem_values_insert member with isNew | before
  · exact Or.inl isNew
  · exact Or.inr (mem_values_revoke before)

/-- Revoking everything cancels the tokens on record and no others. -/
theorem isCancelled_revokeAll {tokens : Tokens} {token : TokenId} :
    tokens.revokeAll.1.isCancelled token = true ↔
      token ∈ tokens.current.values ∨ tokens.isCancelled token = true := by
  simp only [isCancelled_iff, revokeAll, List.mem_append]
  exact or_left_comm

/-- Cancelled tokens stay cancelled. -/
def Continues (before after : Tokens) : Prop :=
  ∀ token, before.isCancelled token = true → after.isCancelled token = true

theorem Continues.refl (tokens : Tokens) : tokens.Continues tokens := fun _ cancelled => cancelled

theorem Continues.trans {first second third : Tokens} (left : first.Continues second)
    (right : second.Continues third) : first.Continues third :=
  fun token cancelled => right token (left token cancelled)

theorem continues_revoke (tokens : Tokens) (type : ResourceType) :
    tokens.Continues (tokens.revoke type).1 :=
  fun _ cancelled => isCancelled_revoke.2 (Or.inr cancelled)

theorem continues_issue (tokens : Tokens) (type : ResourceType) :
    tokens.Continues (tokens.issue type).1 := by
  intro token cancelled
  cases recorded : tokens.current.get? type with
  | none => rwa [isCancelled_issue_of_none recorded]
  | some previous =>
      have same : (tokens.issue type).1.isCancelled token =
          (tokens.cancel previous).isCancelled token := by
        simp [issue, recorded, isCancelled]
      rw [same]
      exact isCancelled_cancel.2 (Or.inr cancelled)

theorem continues_revokeAll (tokens : Tokens) : tokens.Continues tokens.revokeAll.1 :=
  fun _ cancelled => isCancelled_revokeAll.2 (Or.inr cancelled)

theorem continues_shutdown (tokens : Tokens) : tokens.Continues tokens.shutdown := by
  intro token cancelled
  refine continues_revokeAll tokens.close token (isCancelled_iff.2 (Or.inl ?_))
  rfl

end ClusterCache.Tokens
