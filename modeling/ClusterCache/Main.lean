import ClusterCache.CommandLine.Session

/-!
# The command

The command on a terminal. The configuration is read from the file that the environment names, or
from its usual place. Nothing here opens a connection: every request is answered as where there is
no network.
-/

namespace ClusterCache

open CommandLine

/-- The text of the configuration, empty if there is none. -/
def readConfiguration : IO String := do
  let usual := (← IO.getEnv "HOME").getD "" ++ "/.kube/config"
  let path := (← IO.getEnv "KUBECONFIG").getD usual
  try IO.FS.readFile path catch _ => pure ""

def terminal : Host IO where
  send _ := pure HttpReply.noNetwork
  print := IO.println
  warn := IO.eprintln

partial def followForever (session : Session) : IO UInt32 := do
  followForever (← session.follow terminal)

end ClusterCache

open ClusterCache CommandLine in
def main (words : List String) : IO UInt32 := do
  match ← run terminal (← readConfiguration) words with
  | .exits code => return code.toUInt32
  | .follows session => followForever session
