import ClusterCache.Key
import ClusterCache.Table

/-!
# What is loading, and what was asked for

A scope is what a key asks for apart from its name and its selector. The loading record knows which
scopes wait for their first list and which have it. Scopes are told apart by the text of their key;
a scope that nobody asked for reads as loaded, so that nobody waits for it. The usage record knows
which kinds were asked for, in each namespace.
-/

namespace ClusterCache

/-! ## Loading scopes -/

structure ScopeEntry where
  apiVersion : String
  kind : String
  loaded : Bool
deriving DecidableEq, Repr

/-- Which scopes have been loaded, by the text of their key. -/
structure Loading where
  entries : Table String ScopeEntry
deriving DecidableEq, Repr

namespace Loading

def empty : Loading := ⟨Table.empty⟩

instance : Inhabited Loading := ⟨empty⟩

def record (loading : Loading) (scope : Key) (loaded : Bool) : Loading :=
  ⟨loading.entries.insert scope.text ⟨scope.apiVersion, scope.kind, loaded⟩⟩

/-- Records that the scope is loaded, unless whoever says so is out of date. Also returns whether
it was recorded. -/
def confirm (loading : Loading) (scope : Key) (stale : Bool) : Loading × Bool :=
  if stale then (loading, false) else (loading.record scope true, true)

/-- The scope is loaded, or nobody asked for it. -/
def isLoaded (loading : Loading) (scope : Key) : Bool :=
  (loading.entries.get? scope.text).all ScopeEntry.loaded

def isRecorded (loading : Loading) (scope : Key) : Bool := loading.entries.contains scope.text

def forgetKind (loading : Loading) (apiVersion kind : String) : Loading :=
  ⟨loading.entries.filter fun _ entry => entry.apiVersion ≠ apiVersion || entry.kind ≠ kind⟩

end Loading

/-! ## Kinds in use -/

structure Usage where
  scopes : Table String (Table GroupVersionKind Bool)
deriving DecidableEq, Repr

namespace Usage

def empty : Usage := ⟨Table.empty⟩

instance : Inhabited Usage := ⟨empty⟩

def record (usage : Usage) (ns : String) (kind : GroupVersionKind) (used : Bool) : Usage :=
  ⟨usage.scopes.insert ns (((usage.scopes.get? ns).getD Table.empty).insert kind used)⟩

def isUsed (usage : Usage) (ns : String) (kind : GroupVersionKind) : Bool :=
  ((usage.scopes.get? ns).bind fun kinds => kinds.get? kind).getD false

/-- Forgets a kind in every namespace, and the namespaces that are left without kinds. -/
def forgetKind (usage : Usage) (kind : GroupVersionKind) : Usage :=
  ⟨(usage.scopes.mapValues fun _ kinds => kinds.erase kind).filter fun _ kinds => !kinds.isEmpty⟩

end Usage

end ClusterCache
