import ClusterCache.Text.Blank
import ClusterCache.Text.Quoted

/-!
# Selectors on the command line

A selector is a list of pairs `key=value` between commas. Blank segments are skipped, and white
space around keys and values does not count.
-/

namespace ClusterCache.CommandLine

def selectorPair? (segment : String) : Option (String × String) :=
  (Text.cut '=' segment).map fun (key, value) => (Text.trim key, Text.trim value)

/-- The pairs of a selector, in order; else the first segment that is not a pair. -/
def readSelector (text : String) : Except String (List (String × String)) :=
  ((Text.pieces ',' text).filter fun segment => !Text.allBlank segment).mapM fun segment =>
    match selectorPair? segment with
    | some pair => .ok pair
    | none => .error segment

def selectorProblem (segment : String) : String :=
  "invalid selector " ++ Text.quoted segment ++ ", expected key=value"

end ClusterCache.CommandLine
