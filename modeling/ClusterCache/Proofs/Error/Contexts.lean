import ClusterCache.Alert

/-!
# Errors in contexts

An error may lie in any number of contexts. Whatever classifies errors looks at the one below all of
them, so contexts change neither the category of an error nor the severity of the alert about it. A
failed review is no context: it is classified as such, whatever has failed it.
-/

namespace ClusterCache

namespace Error

/-- The error puts what was being done around another one. -/
def IsContext : Error → Prop
  | context .. => True
  | _ => False

/-- The error in contexts, the first of them outermost. -/
def inContexts (error : Error) (doings : List String) : Error := doings.foldr context error

theorem not_isContext_root (error : Error) : ¬ error.root.IsContext := by
  induction error with
  | context doing source inductionHypothesis => exact inductionHypothesis
  | _ => exact id

@[simp] theorem root_root (error : Error) : error.root.root = error.root := by
  induction error with
  | context doing source inductionHypothesis => exact inductionHypothesis
  | _ => rfl

/-- An error is its root in contexts. -/
theorem exists_inContexts_root (error : Error) :
    ∃ doings, error = error.root.inContexts doings := by
  induction error with
  | context doing source inductionHypothesis =>
      obtain ⟨doings, same⟩ := inductionHypothesis
      exact ⟨doing :: doings, congrArg (context doing) same⟩
  | _ => exact ⟨[], rfl⟩

@[simp] theorem root_inContexts (error : Error) (doings : List String) :
    (error.inContexts doings).root = error.root := by
  induction doings with
  | nil => rfl
  | cons doing rest inductionHypothesis => exact inductionHypothesis

/-! ## Classification -/

theorem category_congr {error other : Error} (same : error.root = other.root) :
    error.category = other.category := by
  rw [← category_root error, same, category_root]

theorem isRetryable_congr {error other : Error} (same : error.root = other.root) :
    error.isRetryable = other.isRetryable := by
  rw [isRetryable, isRetryable, category_congr same]

theorem accessDenied?_congr {error other : Error} (same : error.root = other.root) :
    error.accessDenied? = other.accessDenied? := by
  rw [← accessDenied?_root error, same, accessDenied?_root]

/-- What access was denied to is said by the root. -/
theorem accessDenied?_eq_some_iff {error : Error} {access : AccessKey} :
    error.accessDenied? = some access ↔ error.root = .accessDenied access := by
  induction error with
  | context doing source inductionHypothesis => exact inductionHypothesis
  | accessDenied denied => simp [accessDenied?, root]
  | _ => simp [accessDenied?, root]

theorem category_eq_accessDenied_iff {error : Error} :
    error.category = .accessDenied ↔ ∃ access, error.accessDenied? = some access := by
  induction error with
  | context doing source inductionHypothesis => exact inductionHypothesis
  | accessDenied denied => simp [accessDenied?, category]
  | request failure => cases failure <;> simp [accessDenied?, category]
  | _ => simp [accessDenied?, category]

end Error

/-! ## Alerts -/

namespace Alert

theorem severityOf_congr {error other : Error} (same : error.root = other.root) :
    severityOf error = severityOf other := by
  rw [severityOf, severityOf, Error.category_congr same]

theorem severityOf_eq_warning_iff {error : Error} :
    severityOf error = .warning ↔ error.isRetryable = true := by
  unfold severityOf Error.isRetryable
  cases error.category <;> simp

theorem severityOf_eq_info_iff {error : Error} :
    severityOf error = .info ↔ ∃ access, error.accessDenied? = some access := by
  rw [← Error.category_eq_accessDenied_iff]
  unfold severityOf
  cases error.category <;> simp

/-- All that is neither a warning nor mere information is an error. -/
theorem severityOf_eq_error_iff {error : Error} :
    severityOf error = .error ↔ error.isRetryable = false ∧ error.accessDenied? = none := by
  have denied : error.accessDenied? = none ↔ severityOf error ≠ .info := by
    rw [Ne, severityOf_eq_info_iff, Option.eq_none_iff_forall_ne_some, not_exists]
  have retryable : error.isRetryable = false ↔ severityOf error ≠ .warning := by
    rw [Ne, severityOf_eq_warning_iff, Bool.not_eq_true]
  rw [denied, retryable]
  cases severityOf error <;> simp

end Alert

/-! ## All errors -/

/-- How an error is classified, by itself and in contexts. -/
structure Error.Classified (error : Error) : Prop where
  /-- The root is no context, and nothing but contexts lie around it. -/
  root : ¬ error.root.IsContext ∧ ∃ doings, error = error.root.inContexts doings
  wrapped : ∀ doings,
    (error.inContexts doings).root = error.root ∧
      (error.inContexts doings).category = error.root.category ∧
      (error.inContexts doings).isRetryable = error.root.isRetryable ∧
      (error.inContexts doings).accessDenied? = error.root.accessDenied? ∧
      ∀ now, (Alert.forError now (error.inContexts doings)).severity =
        (Alert.forError now error.root).severity
  denied : ∀ access, error.accessDenied? = some access ↔ error.root = .accessDenied access
  warning : ∀ now, (Alert.forError now error).severity = .warning ↔ error.isRetryable = true
  info : ∀ now, (Alert.forError now error).severity = .info ↔
    ∃ access, error.accessDenied? = some access
  severe : ∀ now, (Alert.forError now error).severity = .error ↔
    error.isRetryable = false ∧ error.accessDenied? = none
  /-- A failed review is of its own category, whatever has failed it. -/
  fetch : ∀ access, (Error.fetch access error).category = .fetch

theorem Error.classified (error : Error) : error.Classified where
  root := ⟨error.not_isContext_root, error.exists_inContexts_root⟩
  wrapped doings := by
    have same : (error.inContexts doings).root = error.root.root := by
      rw [root_inContexts, root_root]
    exact ⟨root_inContexts error doings, category_congr same, isRetryable_congr same,
      accessDenied?_congr same, fun _ => Alert.severityOf_congr same⟩
  denied _ := accessDenied?_eq_some_iff
  warning _ := Alert.severityOf_eq_warning_iff
  info _ := Alert.severityOf_eq_info_iff
  severe _ := Alert.severityOf_eq_error_iff
  fetch _ := rfl

end ClusterCache
