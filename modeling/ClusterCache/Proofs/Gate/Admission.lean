import ClusterCache.Gate

/-!
# Who is inside the gate

Nobody is let in beside a call that is inside alone. A call that is inside stays there until it
leaves, and only who has arrived is inside or waits.
-/

namespace ClusterCache.Gate

variable {gate : Gate} {inside waiting : List (CallId × Passage)} {entry : CallId × Passage}
  {call : CallId}

/-- Who is among them alone is nobody's company. -/
def IsExclusiveAmong (inside : List (CallId × Passage)) : Prop :=
  ∀ call, (call, Passage.alone) ∈ inside → inside = [(call, .alone)]

/-- Who is inside alone is the only one inside. -/
def Exclusive (gate : Gate) : Prop := IsExclusiveAmong gate.inside

/-- The call is inside or waits, with the passage it asked for. -/
def Has (gate : Gate) (entry : CallId × Passage) : Prop :=
  entry ∈ gate.inside ∨ entry ∈ gate.waiting

theorem isInside_iff : gate.isInside call = true ↔ ∃ passage, (call, passage) ∈ gate.inside := by
  simp [isInside]

/-! ## Letting in -/

theorem IsExclusiveAmong.concat (exclusive : IsExclusiveAmong inside)
    (admitted : admits inside entry.2 = true) : IsExclusiveAmong (inside ++ [entry]) := by
  intro call member
  obtain ⟨arrived, passage⟩ := entry
  cases passage with
  | shared =>
      have inOld : (call, Passage.alone) ∈ inside := by simpa using member
      have isShared := List.all_eq_true.1 admitted _ inOld
      simp at isShared
  | alone =>
      have empty : inside = [] := List.isEmpty_iff.1 admitted
      subst empty
      have same : call = arrived := by simpa using member
      rw [same]
      rfl

theorem exclusive_letIn (exclusive : IsExclusiveAmong inside) (waiting : List (CallId × Passage)) :
    (letIn inside waiting).Exclusive := by
  induction waiting generalizing inside with
  | nil => exact exclusive
  | cons next rest inductionHypothesis =>
      unfold letIn
      split
      · rename_i admitted
        exact inductionHypothesis (exclusive.concat admitted)
      · exact exclusive

/-- Nobody who is inside is turned out. -/
theorem mem_inside_letIn (member : entry ∈ inside) (waiting : List (CallId × Passage)) :
    entry ∈ (letIn inside waiting).inside := by
  induction waiting generalizing inside with
  | nil => exact member
  | cons next rest inductionHypothesis =>
      unfold letIn
      split
      · exact inductionHypothesis (List.mem_append_left _ member)
      · exact member

/-- Only who has waited is let in. -/
theorem has_of_letIn (has : (letIn inside waiting).Has entry) :
    entry ∈ inside ∨ entry ∈ waiting := by
  induction waiting generalizing inside with
  | nil => exact has
  | cons next rest inductionHypothesis =>
      unfold letIn at has
      split at has
      · rcases inductionHypothesis has with isIn | inRest
        · rcases List.mem_append.1 isIn with isIn | isNext
          · exact Or.inl isIn
          · rw [List.mem_singleton.1 isNext]
            exact Or.inr List.mem_cons_self
        · exact Or.inr (List.mem_cons_of_mem _ inRest)
      · exact has

/-! ## Arriving and leaving -/

theorem exclusive_arrive (exclusive : gate.Exclusive) (call : CallId) (passage : Passage) :
    (gate.arrive call passage).Exclusive := by
  unfold arrive
  split
  · rename_i granted
    have admitted : admits gate.inside passage = true := (Bool.and_eq_true_iff.1 granted).2
    exact IsExclusiveAmong.concat exclusive admitted
  · exact exclusive

theorem mem_inside_arrive (member : entry ∈ gate.inside) (call : CallId) (passage : Passage) :
    entry ∈ (gate.arrive call passage).inside := by
  unfold arrive
  split
  · exact List.mem_append_left _ member
  · exact member

theorem has_of_arrive {passage : Passage} (has : (gate.arrive call passage).Has entry) :
    gate.Has entry ∨ entry = (call, passage) := by
  unfold arrive at has
  split at has
  · rcases has with isIn | waits
    · rcases List.mem_append.1 isIn with isIn | isNew
      · exact Or.inl (Or.inl isIn)
      · exact Or.inr (List.mem_singleton.1 isNew)
    · exact Or.inl (Or.inr waits)
  · rcases has with isIn | waits
    · exact Or.inl (Or.inl isIn)
    · rcases List.mem_append.1 waits with waits | isNew
      · exact Or.inl (Or.inr waits)
      · exact Or.inr (List.mem_singleton.1 isNew)

theorem exclusive_leave (exclusive : gate.Exclusive) (call : CallId) :
    (gate.leave call).Exclusive := by
  refine exclusive_letIn ?_ _
  intro other member
  obtain ⟨isIn, stays⟩ := List.mem_filter.1 member
  have different : other ≠ call := by simpa using stays
  rw [exclusive other isIn]
  simp [different]

theorem mem_inside_leave (member : entry ∈ gate.inside) (different : entry.1 ≠ call) :
    entry ∈ (gate.leave call).inside :=
  mem_inside_letIn (List.mem_filter.2 ⟨member, by simpa using different⟩) _

theorem has_of_leave (has : (gate.leave call).Has entry) : gate.Has entry := by
  rcases has_of_letIn has with isIn | waits
  · exact Or.inl (List.mem_filter.1 isIn).1
  · exact Or.inr (List.mem_filter.1 waits).1

/-- Who has left is neither inside nor waits. -/
theorem ne_of_has_leave (has : (gate.leave call).Has entry) : entry.1 ≠ call := by
  rcases has_of_letIn has with isIn | waits
  · simpa using (List.mem_filter.1 isIn).2
  · simpa using (List.mem_filter.1 waits).2

end ClusterCache.Gate
