import ClusterCache.CommandLine.Arguments
import ClusterCache.Error

/-!
# Reports of failure

What a command says when it fails: the error, and below it its causes, numbered from the outermost
on unless there is only one.
-/

namespace ClusterCache.CommandLine

/-- What stands before a cause: its number, if it has one, right-aligned. -/
def causeMark : Option Nat → String
  | none => "    "
  | some number =>
      let digits := toString number
      String.ofList (List.replicate (5 - digits.length) ' ') ++ digits ++ ": "

def causeIndent (number : Option Nat) : String :=
  String.ofList (List.replicate (if number.isSome then 7 else 4) ' ')

def causeLines (number : Option Nat) (cause : String) : List String :=
  match Text.pieces '\n' cause with
  | [] => [causeMark number]
  | first :: rest => (causeMark number ++ first) :: rest.map (causeIndent number ++ ·)

def causesLines : List String → List String
  | [] => []
  | [cause] => ["", "Caused by:"] ++ causeLines none cause
  | causes =>
      ["", "Caused by:"] ++ causes.zipIdx.flatMap fun (cause, number) =>
        causeLines (some number) cause

def failureLines (message : String) (causes : List String) : List String :=
  Text.pieces '\n' ("Error: " ++ message) ++ causesLines causes

def errorLines (error : Error) : List String :=
  failureLines error.message (error.causes.map Error.Cause.message)

def ArgumentsProblem.message : ArgumentsProblem → String
  | .unknownArgument => "error: unknown argument"
  | .missingValue => "error: an option lacks its value"
  | .invalidValue => "error: an option has a value that it cannot take"
  | .repeated => "error: an option is given more than once"
  | .needlessValue => "error: a flag has a value"
  | .help => "Usage: kubecache [OPTIONS]"
  | .version => "kubecache 0.1.0"

/-- Help and version are what was asked for, and no failure. -/
def ArgumentsProblem.exitCode : ArgumentsProblem → Nat
  | .help | .version => 0
  | _ => 2

end ClusterCache.CommandLine
