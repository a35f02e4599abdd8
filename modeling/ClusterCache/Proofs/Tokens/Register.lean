import ClusterCache.Proofs.Runs
import ClusterCache.Proofs.Tokens.Cancellation
import Mathlib.Data.List.Induction

/-!
# Which tokens are live

Tokens are issued, revoked by type or all together and cancelled from outside in any order, and the
registry may be shut down or closed at any moment. Main statement: a token that was issued is live
exactly as long as it is the one on record for its type, nobody has cancelled it from outside and
the registry is open. So whatever is done to the registry cancels what it is meant to cancel, and no
other token.
-/

namespace ClusterCache.Tokens

/-! ## Commands -/

/-- What can happen to the registry and its tokens. -/
inductive Command
  | issue (type : ResourceType)
  | revoke (type : ResourceType)
  | revokeAll
  | shutdown
  | close
  /-- A token is cancelled by somebody who holds it. -/
  | cancel (token : TokenId)

def obey (tokens : Tokens) : Command → Tokens
  | .issue type => (tokens.issue type).1
  | .revoke type => (tokens.revoke type).1
  | .revokeAll => tokens.revokeAll.1
  | .shutdown => tokens.shutdown
  | .close => tokens.close
  | .cancel token => tokens.cancel token

/-- The registry after a sequence of commands. -/
def after (commands : List Command) : Tokens := commands.foldl obey empty

theorem after_concat (commands : List Command) (command : Command) :
    after (commands ++ [command]) = (after commands).obey command :=
  List.foldl_append

/-- The command takes the token of the type off the record. -/
def Command.Displaces (type : ResourceType) : Command → Prop
  | issue other | revoke other => other = type
  | revokeAll | shutdown => True
  | close | cancel _ => False

/-- By one of the commands the token was issued for the type. -/
def Issued (commands : List Command) (type : ResourceType) (token : TokenId) : Prop :=
  ∃ first rest, commands = first ++ .issue type :: rest ∧ ((after first).issue type).2 = token

/-- The token was issued for the type, and no later command has taken it off the record. -/
def OnRecord (commands : List Command) (type : ResourceType) (token : TokenId) : Prop :=
  ∃ first rest, commands = first ++ .issue type :: rest ∧
    ((after first).issue type).2 = token ∧ ∀ command ∈ rest, ¬ command.Displaces type

/-! ## What one command does -/

section Step

variable {tokens : Tokens} {type : ResourceType} {token : TokenId}

theorem mem_cancelled_issue :
    token ∈ (tokens.issue type).1.cancelled ↔
      tokens.current.get? type = some token ∨ token ∈ tokens.cancelled := by
  cases recorded : tokens.current.get? type with
  | none => simp [issue, recorded]
  | some previous => simp [issue, recorded, cancel, eq_comm]

theorem closed_issue (tokens : Tokens) (type : ResourceType) :
    (tokens.issue type).1.closed = tokens.closed := by
  cases recorded : tokens.current.get? type <;> simp [issue, recorded, cancel]

theorem isCancelled_issue {other : TokenId} :
    (tokens.issue type).1.isCancelled other = true ↔
      tokens.current.get? type = some other ∨ tokens.isCancelled other = true := by
  simp only [isCancelled_iff, closed_issue, mem_cancelled_issue]
  exact or_left_comm

theorem issued_obey (tokens : Tokens) (command : Command) :
    (tokens.obey command).issued = tokens.issued ∨
      (∃ type, command = .issue type) ∧ (tokens.obey command).issued = tokens.issued + 1 := by
  cases command with
  | issue type => exact Or.inr ⟨⟨type, rfl⟩, rfl⟩
  | revoke type => exact Or.inl (issued_revoke tokens type)
  | _ => exact Or.inl rfl

theorem closed_obey (tokens : Tokens) (command : Command) :
    (tokens.obey command).closed = true ↔
      tokens.closed = true ∨ command = .shutdown ∨ command = .close := by
  cases command with
  | issue type => simp [obey, closed_issue]
  | revoke type => simp [obey, closed_revoke]
  | revokeAll => simp [obey, Tokens.revokeAll]
  | shutdown => simp [obey, Tokens.shutdown, Tokens.close, Tokens.revokeAll]
  | close => simp [obey, Tokens.close]
  | cancel token => simp [obey, Tokens.cancel]

theorem distinct_obey (distinct : tokens.current.Distinct) (command : Command) :
    (tokens.obey command).current.Distinct := by
  cases command with
  | issue type => exact distinct.insert type _
  | revoke type =>
      simp only [obey, Tokens.revoke]
      split
      · exact distinct.erase type
      · exact distinct
  | revokeAll | shutdown => exact Table.distinct_empty
  | close | cancel token => exact distinct

theorem mem_values_iff (distinct : tokens.current.Distinct) :
    token ∈ tokens.current.values ↔ ∃ type, tokens.current.get? type = some token := by
  constructor
  · intro member
    obtain ⟨⟨type, _⟩, inEntries, rfl⟩ := List.mem_map.1 member
    exact ⟨type, distinct.get?_eq_some_iff.2 inEntries⟩
  · rintro ⟨type, recorded⟩
    exact Table.mem_values_of_get? recorded

/-- A token is on record after a command if it was before and the command leaves it there, or if
the command has just issued it. -/
theorem current_obey (command : Command) :
    (tokens.obey command).current.get? type = some token ↔
      (tokens.current.get? type = some token ∧ ¬ command.Displaces type) ∨
        (command = .issue type ∧ token = tokens.issued) := by
  cases command with
  | issue other =>
      have inserted : (tokens.obey (.issue other)).current =
          tokens.current.insert other tokens.issued := rfl
      rw [inserted, Table.get?_insert]
      by_cases same : type = other
      · subst same
        simp [Command.Displaces, eq_comm]
      · simp [Command.Displaces, same, Ne.symm same]
  | revoke other =>
      have revoked : (tokens.obey (.revoke other)).current.get? type =
          if type = other then none else tokens.current.get? type :=
        current_revoke tokens other type
      rw [revoked]
      by_cases same : type = other
      · simp [Command.Displaces, same]
      · simp [Command.Displaces, same, Ne.symm same]
  | revokeAll | shutdown => simp [obey, Tokens.shutdown, Tokens.revokeAll, Command.Displaces]
  | close | cancel other => simp [obey, Tokens.close, Tokens.cancel, Command.Displaces]

/-- A command cancels the tokens that it takes off the record, and the one that it names. -/
theorem mem_cancelled_obey (distinct : tokens.current.Distinct) (command : Command) :
    token ∈ (tokens.obey command).cancelled ↔
      token ∈ tokens.cancelled ∨ command = .cancel token ∨
        ∃ type, tokens.current.get? type = some token ∧ command.Displaces type := by
  have everything : token ∈ tokens.current.values ++ tokens.cancelled ↔
      token ∈ tokens.cancelled ∨ ∃ type, tokens.current.get? type = some token := by
    rw [List.mem_append, mem_values_iff distinct, or_comm]
  cases command with
  | issue type => simp [obey, mem_cancelled_issue, Command.Displaces, or_comm]
  | revoke type => simp [obey, mem_cancelled_revoke, Command.Displaces, or_comm]
  | revokeAll => simpa [obey, Tokens.revokeAll, Command.Displaces] using everything
  | shutdown =>
      simpa [obey, Tokens.shutdown, Tokens.close, Tokens.revokeAll, Command.Displaces]
        using everything
  | close => simp [obey, Tokens.close, Command.Displaces]
  | cancel other => simp [obey, Tokens.cancel, Command.Displaces, or_comm, eq_comm]

end Step

/-! ## What a sequence of commands does -/

section Run

variable {commands : List Command} {command : Command} {type other : ResourceType}
  {token : TokenId}

theorem issued_concat_iff :
    Issued (commands ++ [command]) type token ↔
      Issued commands type token ∨ (command = .issue type ∧ token = (after commands).issued) := by
  rw [Issued, exists_split_concat_iff]
  exact or_congr Iff.rfl (and_congr_right fun _ => eq_comm)

theorem onRecord_concat_iff :
    OnRecord (commands ++ [command]) type token ↔
      (OnRecord commands type token ∧ ¬ command.Displaces type) ∨
        (command = .issue type ∧ token = (after commands).issued) := by
  rw [OnRecord, exists_split_concat_iff]
  refine or_congr ⟨?_, ?_⟩ (and_congr_right fun _ => ?_)
  · rintro ⟨first, rest, split, isToken, kept⟩
    have keptBefore := fun other member => kept other (List.mem_append_left [command] member)
    exact ⟨⟨first, rest, split, isToken, keptBefore⟩, kept command (by simp)⟩
  · rintro ⟨⟨first, rest, split, isToken, kept⟩, keeps⟩
    refine ⟨first, rest, split, isToken, fun other member => ?_⟩
    rcases List.mem_append.1 member with before | last
    · exact kept other before
    · rwa [List.mem_singleton.1 last]
  · have fresh : ((after commands).issue type).2 = (after commands).issued := rfl
    simp [fresh, eq_comm]

theorem OnRecord.issued (recorded : OnRecord commands type token) :
    Issued commands type token := by
  obtain ⟨first, rest, split, isToken, _⟩ := recorded
  exact ⟨first, rest, split, isToken⟩

theorem distinct_after (commands : List Command) : (after commands).current.Distinct := by
  induction commands using List.reverseRecOn with
  | nil => exact Table.distinct_empty
  | append_singleton commands command inductionHypothesis =>
      rw [after_concat]
      exact distinct_obey inductionHypothesis command

/-- Every token that was issued has a smaller number than the next one will have. -/
theorem Issued.lt (issued : Issued commands type token) : token < (after commands).issued := by
  induction commands using List.reverseRecOn with
  | nil =>
      obtain ⟨first, rest, split, _⟩ := issued
      simp at split
  | append_singleton commands command inductionHypothesis =>
      rw [after_concat]
      rcases issued_concat_iff.1 issued with before | ⟨rfl, rfl⟩
      · have smaller := inductionHypothesis before
        rcases issued_obey (after commands) command with same | ⟨_, next⟩
        · rwa [same]
        · rw [next]
          exact Nat.lt_succ_of_lt smaller
      · exact Nat.lt_succ_self _

/-- A token is issued for one type only. -/
theorem Issued.unique (issued : Issued commands type token)
    (otherIssued : Issued commands other token) : type = other := by
  induction commands using List.reverseRecOn with
  | nil =>
      obtain ⟨first, rest, split, _⟩ := issued
      simp at split
  | append_singleton commands command inductionHypothesis =>
      rcases issued_concat_iff.1 issued with before | ⟨isIssue, fresh⟩
      · rcases issued_concat_iff.1 otherIssued with otherBefore | ⟨_, fresh⟩
        · exact inductionHypothesis before otherBefore
        · exact absurd before.lt (by rw [fresh]; exact Nat.lt_irrefl _)
      · rcases issued_concat_iff.1 otherIssued with otherBefore | ⟨isOther, _⟩
        · exact absurd otherBefore.lt (by rw [fresh]; exact Nat.lt_irrefl _)
        · rw [isIssue] at isOther
          exact Command.issue.inj isOther

/-- The registry has on record what was issued and not taken off the record. -/
theorem current_after_iff :
    (after commands).current.get? type = some token ↔ OnRecord commands type token := by
  induction commands using List.reverseRecOn with
  | nil => simp [after, empty, OnRecord]
  | append_singleton commands command inductionHypothesis =>
      rw [after_concat, current_obey, inductionHypothesis, onRecord_concat_iff]

/-- The registry is closed once it was shut down or closed. -/
theorem closed_after_iff :
    (after commands).closed = true ↔ .shutdown ∈ commands ∨ .close ∈ commands := by
  induction commands using List.reverseRecOn with
  | nil => simp [after, empty]
  | append_singleton commands command inductionHypothesis =>
      rw [after_concat, closed_obey, inductionHypothesis]
      simp only [List.mem_append, List.mem_singleton, eq_comm]
      exact or_or_or_comm

/-- The tokens that were cancelled one by one are those that were cancelled from outside and those
that are not on record any more. -/
theorem mem_cancelled_after_iff :
    token ∈ (after commands).cancelled ↔
      .cancel token ∈ commands ∨
        ∃ type, Issued commands type token ∧ ¬ OnRecord commands type token := by
  induction commands using List.reverseRecOn with
  | nil => simp [after, empty, Issued]
  | append_singleton commands command inductionHypothesis =>
      rw [after_concat, mem_cancelled_obey (distinct_after commands), inductionHypothesis]
      simp only [List.mem_append, List.mem_singleton, issued_concat_iff, onRecord_concat_iff,
        current_after_iff]
      -- The number of a token that was issued before is not that of a fresh one.
      have old : ∀ {type}, Issued commands type token → token ≠ (after commands).issued :=
        fun issued => Nat.ne_of_lt issued.lt
      constructor
      · rintro ((outside | ⟨type, issued, gone⟩) | rfl | ⟨type, recorded, displaced⟩)
        · exact Or.inl (Or.inl outside)
        · exact Or.inr ⟨type, Or.inl issued, by simp [gone, old issued]⟩
        · exact Or.inl (Or.inr rfl)
        · exact Or.inr ⟨type, Or.inl recorded.issued, by simp [displaced, old recorded.issued]⟩
      · rintro ((outside | isCancel) | ⟨type, issued | fresh, gone⟩)
        · exact Or.inl (Or.inl outside)
        · exact Or.inr (Or.inl isCancel.symm)
        · by_cases recorded : OnRecord commands type token
          · refine Or.inr (Or.inr ⟨type, recorded, ?_⟩)
            by_contra kept
            exact gone (Or.inl ⟨recorded, kept⟩)
          · exact Or.inl (Or.inr ⟨type, issued, recorded⟩)
        · exact absurd (Or.inr fresh) gone

/-! ## All sequences of commands -/

/-- Which tokens are live after a sequence of commands, and what a further command does. -/
structure Accounted (commands : List Command) : Prop where
  live : ∀ type token, Issued commands type token →
    ((after commands).isCancelled token = false ↔
      OnRecord commands type token ∧ .cancel token ∉ commands ∧
        .shutdown ∉ commands ∧ .close ∉ commands)
  recorded : ∀ type token,
    (after commands).current.get? type = some token ↔ OnRecord commands type token
  /-- To issue a token cancels the one on record for the type, and no other. -/
  issue : ∀ type token, ((after commands).issue type).1.isCancelled token = true ↔
    OnRecord commands type token ∨ (after commands).isCancelled token = true
  revoke : ∀ type,
    (((after commands).revoke type).2 = true ↔ ∃ token, OnRecord commands type token) ∧
      ∀ token, ((after commands).revoke type).1.isCancelled token = true ↔
        OnRecord commands type token ∨ (after commands).isCancelled token = true
  revokeAll : ∃ types : List ResourceType,
    types.Nodup ∧ (∀ type, type ∈ types ↔ ∃ token, OnRecord commands type token) ∧
      (after commands).revokeAll.2 = types.length
  /-- To cancel a token from outside changes nothing on the record. -/
  cancel : ∀ token,
    ((after commands).cancel token).current = (after commands).current ∧
      ∀ other, ((after commands).cancel token).isCancelled other = true ↔
        other = token ∨ (after commands).isCancelled other = true
  /-- Once the registry is closed, tokens are cancelled from the start. -/
  closed : .shutdown ∈ commands ∨ .close ∈ commands → ∀ type,
    ((after commands).issue type).1.isCancelled ((after commands).issue type).2 = true

/-- A token is live exactly while it is on record, not cancelled from outside, and the registry is
open. -/
theorem live_while_on_record (commands : List Command) : Accounted commands where
  live type token issued := by
    rw [← Bool.not_eq_true, isCancelled_iff, closed_after_iff, mem_cancelled_after_iff]
    constructor
    · intro live
      refine ⟨?_, fun outside => live (Or.inr (Or.inl outside)),
        fun shutdown => live (Or.inl (Or.inl shutdown)),
        fun closed => live (Or.inl (Or.inr closed))⟩
      by_contra gone
      exact live (Or.inr (Or.inr ⟨type, issued, gone⟩))
    · rintro ⟨recorded, notOutside, notShutdown, notClosed⟩
        ((shutdown | closed) | outside | ⟨other, otherIssued, gone⟩)
      · exact notShutdown shutdown
      · exact notClosed closed
      · exact notOutside outside
      · rw [← issued.unique otherIssued] at gone
        exact gone recorded
  recorded type token := current_after_iff
  issue type token := by rw [isCancelled_issue, current_after_iff]
  revoke type := by
    refine ⟨?_, fun token => by rw [isCancelled_revoke, current_after_iff]⟩
    simp only [← current_after_iff]
    cases recorded : (after commands).current.get? type with
    | none => simp [Tokens.revoke, recorded]
    | some token => simp [Tokens.revoke, recorded]
  revokeAll := by
    refine ⟨(after commands).current.keys, distinct_after commands, fun type => ?_, ?_⟩
    · simp only [← current_after_iff, (distinct_after commands).get?_eq_some_iff]
      simp [Table.keys]
    · simp [Tokens.revokeAll, Table.size, Table.keys]
  cancel token := ⟨rfl, fun other => isCancelled_cancel⟩
  closed isClosed type := by
    refine isCancelled_issue.2 (Or.inr (isCancelled_iff.2 (Or.inl ?_)))
    exact closed_after_iff.2 isClosed

end Run

end ClusterCache.Tokens
