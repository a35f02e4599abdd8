import ClusterCache.Actions
import ClusterCache.Proofs.Error.Contexts
import ClusterCache.Proofs.Key.Conversions
import Mathlib.Data.Set.Functor

/-!
# Deletions on request

What the action asks for is noted down, whatever the store and the alerts are made of. A payload
that spells no key is refused before anything is asked for; any other one leads to one deletion, of
the key that it spells, and to one alert, whose severity follows from what has come of the deletion.
-/

namespace ClusterCache.Deletion

/-- What an action asks for. -/
inductive Asked
  | deletion (key : Key)
  | alert (alert : Alert)

section Journal

variable {μ : Type → Type} [Monad μ]

def noting {α : Type} (asked : Asked) (work : μ α) : StateT (List Asked) μ α := fun journal => do
  let result ← work
  return (result, journal ++ [asked])

theorem run_noting {α : Type} (asked : Asked) (work : μ α) (journal : List Asked) :
    (noting asked work).run journal = do
      let result ← work
      return (result, journal ++ [asked]) := rfl

/-- The action, with a journal of what it asks for. -/
def journaled (now : Instant) (delete : Key → μ (Except Error Unit)) (send : Alert → μ Unit)
    (payload : Payload) : StateT (List Asked) μ (Except Error Unit) :=
  handle now (fun key => noting (.deletion key) (delete key))
    (fun alert => noting (.alert alert) (send alert)) payload

variable (now : Instant) (delete : Key → μ (Except Error Unit)) (send : Alert → μ Unit)
  {payload : Payload}

/-- A payload that spells no key is refused, and nothing is asked for. -/
theorem journaled_of_not_isAddress [LawfulMonad μ] (unspelled : ¬ payload.IsAddress) :
    ∃ error, ∀ journal,
      (journaled now delete send payload).run journal = pure (.error error, journal) := by
  cases read : Key.ofPayload payload with
  | ok key => exact absurd (Key.exists_spells_iff.1 ⟨key, Key.ofPayload_eq_ok_iff.1 read⟩) unspelled
  | error error =>
      refine ⟨error, fun journal => ?_⟩
      simp [journaled, handle, read]

/-- One deletion, and then one alert about it. -/
theorem journaled_of_spells [LawfulMonad μ] {key : Key} (spells : payload.Spells key)
    (journal : List Asked) :
    (journaled now delete send payload).run journal = do
      let result ← delete key
      send (report now key result)
      return (.ok (), journal ++ [.deletion key, .alert (report now key result)]) := by
  have read := Key.ofPayload_eq_ok_iff.2 spells
  simp [journaled, handle, read, run_noting]

end Journal

/-! ## Any store -/

/-- What comes of a deletion calls for an alert of this severity. -/
def dueSeverity : Except Error Unit → Severity
  | .ok _ => .info
  | .error error =>
      if error.accessDenied?.isSome then .info
      else if error.isRetryable then .warning
      else .error

theorem severity_report (now : Instant) (key : Key) (result : Except Error Unit) :
    (report now key result).severity = dueSeverity result := by
  cases result with
  | ok _ => rfl
  | error error =>
      have same : (report now key (.error error)).severity = Alert.severityOf error := rfl
      rw [same, dueSeverity]
      by_cases denied : error.accessDenied?.isSome = true
      · rw [if_pos denied]
        exact Alert.severityOf_eq_info_iff.2 (Option.isSome_iff_exists.1 denied)
      · rw [if_neg denied]
        by_cases retryable : error.isRetryable = true
        · rw [if_pos retryable]
          exact Alert.severityOf_eq_warning_iff.2 retryable
        · rw [if_neg retryable]
          exact Alert.severityOf_eq_error_iff.2
            ⟨by simpa using retryable, by simpa using denied⟩

/-- What may come of the action in a store whose deletions may come out in several ways, or never:
what it returns, what it has asked for, and the store afterwards. -/
def outcomes {σ : Type} (now : Instant) (delete : Key → σ → Set (Except Error Unit × σ))
    (payload : Payload) (before : σ) : Set ((Except Error Unit × List Asked) × σ) :=
  let deleting : Key → StateT σ SetM (Except Error Unit) := fun key => delete key
  ((journaled now deleting (fun _ => pure ()) payload).run []).run before

section Store

variable {σ : Type} {now : Instant} {delete : Key → σ → Set (Except Error Unit × σ)}
  {payload : Payload} {before : σ}

theorem outcomes_of_not_isAddress (now : Instant) (delete : Key → σ → Set (Except Error Unit × σ))
    (before : σ) (unspelled : ¬ payload.IsAddress) :
    ∃ error, outcomes now delete payload before = {((.error error, []), before)} := by
  let deleting : Key → StateT σ SetM (Except Error Unit) := fun key => delete key
  have refused := journaled_of_not_isAddress now deleting (fun _ => pure ()) unspelled
  obtain ⟨error, refusedWith⟩ := refused
  exact ⟨error, congrArg (fun work => StateT.run work before) (refusedWith [])⟩

theorem mem_outcomes_of_spells {key : Key} (spells : payload.Spells key)
    {outcome : Except Error Unit} {journal : List Asked} {after : σ} :
    ((outcome, journal), after) ∈ outcomes now delete payload before ↔
      ∃ result, (result, after) ∈ delete key before ∧ outcome = .ok () ∧
        journal = [.deletion key, .alert (report now key result)] := by
  have served : outcomes now delete payload before =
      ⋃ returned ∈ delete key before,
        {((.ok (), [.deletion key, .alert (report now key returned.1)]), returned.2)} := by
    let deleting : Key → StateT σ SetM (Except Error Unit) := fun key => delete key
    have steps := journaled_of_spells now deleting (fun _ => pure ()) spells []
    simp only [pure_bind, List.nil_append] at steps
    exact congrArg (fun work => StateT.run work before) steps
  rw [served]
  constructor
  · intro member
    obtain ⟨⟨result, left⟩, returned, same⟩ := Set.mem_iUnion₂.1 member
    obtain ⟨sameAnswer, rfl⟩ := Prod.mk.inj same
    obtain ⟨rfl, rfl⟩ := Prod.mk.inj sameAnswer
    exact ⟨result, returned, rfl, rfl⟩
  · rintro ⟨result, returned, rfl, rfl⟩
    exact Set.mem_iUnion₂.2 ⟨(result, after), returned, rfl⟩

/-- The action fails if and only if the payload spells no key, and then nothing is deleted or
alerted and the store is left alone. Otherwise it succeeds whenever the deletion returns, after one
deletion of the key that the payload spells and one alert, as severe as what came of the deletion
calls for. -/
theorem acts_and_reports_once (now : Instant) (delete : Key → σ → Set (Except Error Unit × σ))
    (payload : Payload) (before : σ) :
    ((∃ error journal after,
      ((.error error, journal), after) ∈ outcomes now delete payload before) ↔
        ¬ payload.IsAddress) ∧
    (∀ error journal after, ((.error error, journal), after) ∈ outcomes now delete payload before →
      journal = [] ∧ after = before) ∧
    (payload.IsAddress → ∃! key, payload.Spells key) ∧
    ∀ key, payload.Spells key → ∀ outcome journal after,
      ((outcome, journal), after) ∈ outcomes now delete payload before ↔
        ∃ result, (result, after) ∈ delete key before ∧ outcome = .ok () ∧
          journal = [.deletion key, .alert (report now key result)] ∧
          (report now key result).severity = dueSeverity result := by
  have spelled : payload.IsAddress → ∃! key, payload.Spells key := by
    intro isAddress
    obtain ⟨key, spells⟩ := Key.exists_spells_iff.2 isAddress
    exact ⟨key, spells, fun _ otherSpells => Key.spells_unique otherSpells spells⟩
  have fails : ∀ error journal after,
      ((.error error, journal), after) ∈ outcomes now delete payload before →
        ¬ payload.IsAddress := by
    intro error journal after member isAddress
    obtain ⟨key, spells, _⟩ := spelled isAddress
    obtain ⟨_, _, succeeded, _⟩ := (mem_outcomes_of_spells spells).1 member
    cases succeeded
  refine ⟨⟨?_, ?_⟩, ?_, spelled, ?_⟩
  · rintro ⟨error, journal, after, member⟩
    exact fails error journal after member
  · intro unspelled
    obtain ⟨error, only⟩ := outcomes_of_not_isAddress now delete before unspelled
    exact ⟨error, [], before, by rw [only]; rfl⟩
  · intro error journal after member
    obtain ⟨_, only⟩ := outcomes_of_not_isAddress now delete before
      (fails error journal after member)
    rw [only] at member
    obtain ⟨sameAnswer, left⟩ := Prod.mk.inj member
    exact ⟨(Prod.mk.inj sameAnswer).2, left⟩
  · intro key spells outcome journal after
    rw [mem_outcomes_of_spells spells]
    simp only [severity_report, and_true]

end Store

def token : Key := ⟨"ci", "v1", "Secret", some "token", none⟩

/-- A store that counts attempts refuses to delete what has changed in the meantime: a warning. With
a null in place of the kind there is no attempt. -/
theorem acts_and_reports_once_token :
    let stale : Except Error Unit := .error (.context "delete" (.conflict "ci/token" "changed"))
    let delete : Key → Nat → Set (Except Error Unit × Nat) :=
      fun _ attempts => {(stale, attempts + 1)}
    let kindless := token.toPayload.insert "kind" .null
    (token.toPayload.Spells token ∧
      ((.ok (), [.deletion token, .alert (report default token stale)]), 1) ∈
        outcomes default delete token.toPayload 0 ∧
      (report default token stale).severity = .warning) ∧
      ¬ kindless.IsAddress ∧
      ∃ error journal after,
        ((.error error, journal), after) ∈ outcomes default delete kindless 0 := by
  intro stale delete kindless
  have spells : token.toPayload.Spells token :=
    Key.spells_toPayload_self (by decide) rfl
  have unspelled : ¬ kindless.IsAddress := by
    rintro ⟨_, ⟨kind, isKind⟩, _, _⟩
    simp [kindless] at isKind
  have deletes := (acts_and_reports_once default delete token.toPayload 0).2.2.2 token spells
  have refuses := (acts_and_reports_once default delete kindless 0).1
  exact ⟨⟨spells, (deletes _ _ 1).2 ⟨stale, rfl, rfl, rfl, rfl⟩, rfl⟩, unspelled,
    refuses.2 unspelled⟩

end ClusterCache.Deletion
