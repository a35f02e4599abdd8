import ClusterCache.Table

/-!
# Access decisions

Whether the current identity may perform a verb on a resource in a namespace is decided by the
cluster and remembered here, per combination of the four.
-/

namespace ClusterCache

/-- What a permission is asked for. `ns` is the namespace. -/
structure AccessKey where
  ns : String
  group : String
  resource : String
  verb : String
deriving DecidableEq, Repr, Inhabited

def AccessKey.text (key : AccessKey) : String :=
  "AccessKey[Namespace='" ++ key.ns ++ "', Group='" ++ key.group ++ "', Resource='"
    ++ key.resource ++ "', Verb='" ++ key.verb ++ "']"

abbrev Decisions := Table AccessKey Bool

namespace Decisions

/-- What is known of a key: whether access is allowed, and whether that was decided at all. An
undecided key reads as not allowed. -/
def lookup (decisions : Decisions) (key : AccessKey) : Bool × Bool :=
  match decisions.get? key with
  | some allowed => (allowed, true)
  | none => (false, false)

end Decisions

/-! ## Verbs -/

inductive Verb
  | list
  | get
  | delete
  | update
  | watch
deriving DecidableEq, Repr

def Verb.text : Verb → String
  | .list => "list"
  | .get => "get"
  | .delete => "delete"
  | .update => "update"
  | .watch => "watch"

end ClusterCache
