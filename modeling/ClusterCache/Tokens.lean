import ClusterCache.Kind
import ClusterCache.Table

/-!
# Tokens

Every watch loop runs under a token and ends when the token is cancelled. The registry issues the
tokens, numbered in order, and has at most one on record for each resource type. All tokens hang on
the registry: once it is closed they are cancelled, those issued later too.
-/

namespace ClusterCache

/-- The number of a token, counted from zero in the order they were issued. -/
abbrev TokenId := Nat

structure Tokens where
  issued : Nat
  cancelled : List TokenId
  /-- The registry was closed, which cancels every token. -/
  closed : Bool
  current : Table ResourceType TokenId
deriving DecidableEq, Repr

namespace Tokens

def empty : Tokens := ⟨0, [], false, Table.empty⟩

instance : Inhabited Tokens := ⟨empty⟩

def isCancelled (tokens : Tokens) (token : TokenId) : Bool :=
  tokens.closed || tokens.cancelled.contains token

def cancel (tokens : Tokens) (token : TokenId) : Tokens :=
  { tokens with cancelled := token :: tokens.cancelled }

/-- Issues a fresh token and puts it on record for the type. The token on record before is
cancelled, so that its loop does not go on unowned. -/
def issue (tokens : Tokens) (type : ResourceType) : Tokens × TokenId :=
  let token := tokens.issued
  let released :=
    match tokens.current.get? type with
    | some previous => tokens.cancel previous
    | none => tokens
  ({ released with issued := token + 1, current := tokens.current.insert type token }, token)

/-- Cancels and forgets the token of the type. Also returns whether there was one. -/
def revoke (tokens : Tokens) (type : ResourceType) : Tokens × Bool :=
  match tokens.current.get? type with
  | some token => ({ tokens.cancel token with current := tokens.current.erase type }, true)
  | none => (tokens, false)

/-- Cancels and forgets every token on record. Also returns how many there were. -/
def revokeAll (tokens : Tokens) : Tokens × Nat :=
  ({ tokens with
      cancelled := tokens.current.values ++ tokens.cancelled
      current := Table.empty },
    tokens.current.size)

def contains (tokens : Tokens) (type : ResourceType) : Bool := tokens.current.contains type

def size (tokens : Tokens) : Nat := tokens.current.size

/-- Cancels every token, those issued later too. What is on record stays. -/
def close (tokens : Tokens) : Tokens := { tokens with closed := true }

/-- Cancels every token, those issued later too, and forgets what is on record. -/
def shutdown (tokens : Tokens) : Tokens := tokens.close.revokeAll.1

end Tokens

end ClusterCache
