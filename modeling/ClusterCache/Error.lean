import ClusterCache.Access
import ClusterCache.Text.Quoted

/-!
# Errors

Every way in which an operation of the cache can fail, by cause. A context may be put around an
error any number of times without changing what it is: classification looks at the innermost error.
An error in asking for a permission, on the other hand, is a cause of its own, whatever lies below
it.
-/

namespace ClusterCache

/-! ## Causes -/

inductive IoFailure
  | connectionRefused
  | connectionReset
  | notFound
  | permissionDenied
  | timedOut
  | unexpectedEnd
  | other (message : String)
deriving DecidableEq, Repr

def IoFailure.message : IoFailure → String
  | .connectionRefused => "connection refused"
  | .connectionReset => "connection reset"
  | .notFound => "entity not found"
  | .permissionDenied => "permission denied"
  | .timedOut => "timed out"
  | .unexpectedEnd => "unexpected end of file"
  | .other message => message

structure Status where
  status : String
  message : String
  reason : String
  code : Nat
deriving DecidableEq, Repr

def Status.annotated (answer : Status) : String :=
  "ErrorResponse \x7b status: " ++ Text.quoted answer.status ++ ", message: "
    ++ Text.quoted answer.message ++ ", reason: " ++ Text.quoted answer.reason ++ ", code: "
    ++ toString answer.code ++ " \x7d"

inductive RequestFailure
  | refused (answer : Status)
  /-- The server was not reached; `below` leads from the reason to the innermost one. -/
  | unreached (reason : String) (below : List String)
  | missingKind (kind : String)
  | malformed
  | noClient
deriving DecidableEq, Repr

def RequestFailure.message : RequestFailure → String
  | .refused answer =>
      "ApiError: " ++ answer.message ++ ": " ++ answer.reason ++ " (" ++ answer.annotated ++ ")"
  | .unreached reason _ => "ServiceError: " ++ reason
  | .missingKind kind => "Error from discovery: Missing Kind: " ++ kind
  | .malformed => "malformed request or answer"
  | .noClient => "no client for the configuration"

inductive KubeconfigProblem
  | missingContext (name : String)
  | unusable
deriving DecidableEq, Repr

def KubeconfigProblem.message : KubeconfigProblem → String
  | .missingContext name => "failed to load current context: " ++ name
  | .unusable => "unusable configuration"

inductive Error
  | json
  | request (failure : RequestFailure)
  | infer
  | kubeconfig (problem : KubeconfigProblem)
  | header
  | io (failure : IoFailure)
  | mapping (key message : String)
  | fetch (access : AccessKey) (source : Error)
  | accessDenied (access : AccessKey)
  | conflict (key message : String)
  | notFound (key : String)
  | context (doing : String) (source : Error)
  | actionNotFound (path : String)
  | lockPoisoned (message : String)
  | custom (message : String)
deriving DecidableEq, Repr, Inhabited

namespace Error

/-- The message of an error names what was being done before the cause. -/
def message : Error → String
  | json => "json: unexpected form"
  | request failure => "kube: " ++ failure.message
  | infer => "infer config: no configuration"
  | kubeconfig problem => "kubeconfig: " ++ problem.message
  | header => "http header: unusable header"
  | io failure => "io: " ++ failure.message
  | mapping key message => "unable to map " ++ key ++ " to a resource: " ++ message
  | fetch access source => "fetch access " ++ access.text ++ ": " ++ source.message
  | accessDenied access =>
      "access denied: no " ++ access.verb ++ " access in " ++ access.ns ++ " to " ++ access.group
        ++ "/" ++ access.resource
  | conflict key message => "conflict updating " ++ key ++ ": " ++ message
  | notFound key => key ++ " not found"
  | context doing source => doing ++ ": " ++ source.message
  | actionNotFound path => "action path " ++ Text.quoted path ++ " not found"
  | lockPoisoned message =>
      message ++ " - this indicates a prior panic, application may be in an inconsistent state"
  | custom message => message

/-! ## Classification -/

def root : Error → Error
  | context _ source => source.root
  | error => error

inductive Category
  | mapping
  | fetch
  | accessDenied
  | conflict
  | notFound
  | transport
  | other
deriving DecidableEq, Repr

/-- The category of an error is that of the innermost error below any context. -/
def category : Error → Category
  | context _ source => source.category
  | mapping .. => .mapping
  | fetch .. => .fetch
  | accessDenied _ => .accessDenied
  | conflict .. => .conflict
  | notFound _ => .notFound
  | io _ => .transport
  | request (.unreached ..) => .transport
  | _ => .other

def isRetryable (error : Error) : Bool :=
  match error.category with
  | .fetch | .conflict | .transport => true
  | _ => false

def accessDenied? : Error → Option AccessKey
  | context _ source => source.accessDenied?
  | accessDenied access => some access
  | _ => none

theorem category_root (error : Error) : error.root.category = error.category := by
  induction error with
  | context doing source inductionHypothesis => simpa [root, category] using inductionHypothesis
  | _ => rfl

theorem accessDenied?_root (error : Error) : error.root.accessDenied? = error.accessDenied? := by
  induction error with
  | context doing source inductionHypothesis =>
      simpa [root, accessDenied?] using inductionHypothesis
  | _ => rfl

/-! ## Causes below an error -/

/-- The message is worded here throughout: no part of it is left to whoever read or wrote the
malformed value. -/
def isWorded : Error → Bool
  | context _ source => source.isWorded
  | fetch _ source => source.isWorded
  | json | infer | kubeconfig _ | header | request .malformed | request .noClient => false
  | _ => true

/-- One cause below an error: another error of the cache, or a reason from outside of it. -/
inductive Cause
  | inside (error : Error)
  | outside (reason : String)
deriving Repr

def causes : Error → List Cause
  | context _ source => .inside source :: source.causes
  | fetch _ source => .inside source :: source.causes
  | json => [.outside "unexpected form"]
  | infer => [.outside "no configuration"]
  | kubeconfig problem => [.outside problem.message]
  | header => [.outside "unusable header"]
  | io failure => [.outside failure.message]
  | request failure =>
      .outside failure.message ::
        match failure with
        | .unreached reason below => (reason :: below).map .outside
        | .refused answer => [.outside (answer.message ++ ": " ++ answer.reason)]
        | .missingKind kind => [.outside ("Missing Kind: " ++ kind)]
        | .malformed | .noClient => []
  | _ => []

def Cause.message : Cause → String
  | .inside error => error.message
  | .outside reason => reason

end Error

end ClusterCache
