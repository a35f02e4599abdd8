import ClusterCache.Text.Blank

/-!
# User agents

How this client introduces itself to a cluster: as its user wishes, else as its caller does. A name
that no header can carry is left out.
-/

namespace ClusterCache.UserAgent

def standard : String := "kubecache/0.1.0"

/-- The user's wish counts before the caller's, unless it is blank. -/
def choose (wished called : Option String) : Option String :=
  (wished.filter fun name => !Text.allBlank name).or called

/-- A header carries every character but control characters; a tab it carries. -/
def isHeaderValue (text : String) : Bool :=
  text.toList.all fun c => c = '\t' || (0x20 ≤ c.toNat && c.toNat ≠ 0x7F)

def headers (chosen : Option String) : List (String × String) :=
  ((chosen.filter isHeaderValue).map fun name => ("user-agent", name)).toList

end ClusterCache.UserAgent
