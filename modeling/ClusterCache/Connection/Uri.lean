/-!
# Addresses of servers

The form of an address: a scheme, the part that names the host, a path and a query. Without a scheme
an address is a path, or the part that names the host. What follows a number sign does not count.
-/

namespace ClusterCache.Uri

/-! ## Paths and queries -/

def isVisible (c : Char) : Bool := 0x20 < c.toNat && c.toNat ≠ 0x7F

def isPathChar (c : Char) : Bool := isVisible c && c ≠ '<' && c ≠ '>' && c.toNat ≠ 0x60

def isQueryChar (c : Char) : Bool := isVisible c && c ≠ '<' && c ≠ '>' && c ≠ '"'

/-- The part of a target that is sent: it ends before the first number sign. -/
def sentPart (target : List Char) : List Char := target.takeWhile (· ≠ '#')

def isTarget (target : List Char) : Bool :=
  let sent := sentPart target
  (sent.takeWhile (· ≠ '?')).all isPathChar && (sent.dropWhile (· ≠ '?')).all isQueryChar

/-! ## Schemes -/

def isSchemeChar (c : Char) : Bool := c.isAlphanum || "+-.~".toList.contains c

def schemeLimit : Nat := 64

/-- The scheme in front of a colon and two slashes, if there is one, and what follows. -/
def splitScheme (text : List Char) : Option (List Char) × List Char :=
  let scheme := text.takeWhile isSchemeChar
  match text.dropWhile isSchemeChar with
  | ':' :: '/' :: '/' :: rest => if 3 < text.length then (some scheme, rest) else (none, text)
  | _ => (none, text)

/-! ## Hosts -/

def isHostChar (c : Char) : Bool := c.isAlphanum || "!$&'()*+,-.:;=@[]_~".toList.contains c

/-- What is known of the part that names the host while it is read. -/
structure HostState where
  /-- Colons since the last at sign or closing bracket. -/
  colons : Nat
  opened : Bool
  closed : Bool
  /-- There was a percent sign since then. -/
  hasPercent : Bool
  /-- The last character is an at sign. -/
  endsUser : Bool

namespace HostState

def start : HostState := ⟨0, false, false, false, false⟩

/-- Takes in a character. What comes before an at sign names a user, and what stands in brackets is
an address by numbers; in both there may be percent signs and colons, but at most eight of these. -/
def take (state : HostState) (c : Char) : Option HostState :=
  let state' := { state with endsUser := c = '@' }
  if c = '%' then some { state' with hasPercent := true }
  else if !isHostChar c then none
  else if c = ':' then
    if 8 ≤ state.colons then none else some { state' with colons := state.colons + 1 }
  else if c = '[' then
    if state.hasPercent || state.opened then none else some { state' with opened := true }
  else if c = ']' then
    if !state.opened || state.closed then none
    else some { state' with closed := true, colons := 0, hasPercent := false }
  else if c = '@' then some { state' with colons := 0, hasPercent := false }
  else some state'

/-- The part that names the host may end: brackets are closed, at most one colon is left for a port,
and a host follows a user. -/
def mayEnd (state : HostState) : Bool :=
  state.opened = state.closed && state.colons ≤ 1 && !state.endsUser && !state.hasPercent

end HostState

def endsHost (c : Char) : Bool := c = '/' || c = '?' || c = '#'

/-- The text is a host, perhaps with a user and a port. It may be empty. -/
def isHost (text : List Char) : Bool :=
  (text.foldlM HostState.take .start).any HostState.mayEnd

/-! ## Addresses -/

def sizeLimit : Nat := 65534

def isAddress (text : String) : Bool :=
  let characters := text.toList
  if characters.isEmpty || sizeLimit < text.utf8ByteSize then false
  else if text = "*" then true
  else if characters.head? = some '/' then isTarget characters
  else
    match splitScheme characters with
    | (none, rest) => isHost rest
    | (some scheme, rest) =>
        let host := rest.takeWhile fun c => !endsHost c
        scheme.length ≤ schemeLimit && !host.isEmpty && isHost host
          && isTarget (rest.dropWhile fun c => !endsHost c)

end ClusterCache.Uri
