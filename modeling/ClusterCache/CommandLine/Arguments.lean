import ClusterCache.Text.Blank

/-!
# Arguments on the command line

Options have a long name after two dashes and most a letter after one dash. A value follows its
option as the next argument, or in the same one; letters of flags may be written together. A value
is taken in when the next option or the end is reached, so problems show in the order of reading.
-/

namespace ClusterCache.CommandLine

structure Arguments where
  ns : String
  apiVersion : String
  kind : String
  name : Option String
  selector : Option String
  watch : Bool
  context : Option String
  /-- How long to wait for the first lists, in seconds. -/
  syncTimeout : Nat
deriving DecidableEq, Repr

/-- Unless told otherwise, the pods of all namespaces are listed. -/
def Arguments.standard : Arguments := ⟨"", "v1", "Pod", none, none, false, none, 30⟩

inductive ArgumentsProblem
  | unknownArgument
  | missingValue
  | invalidValue
  | repeated
  | needlessValue
  | help
  | version
deriving DecidableEq, Repr

inductive OptionName
  | ns
  | apiVersion
  | kind
  | name
  | selector
  | watch
  | context
  | syncTimeout
  | help
  | version
deriving DecidableEq, Repr

namespace OptionName

def takesValue : OptionName → Bool
  | watch | help | version => false
  | _ => true

def ofLong? : String → Option OptionName
  | "namespace" => some ns
  | "api-version" => some apiVersion
  | "kind" => some kind
  | "name" => some name
  | "selector" => some selector
  | "watch" => some watch
  | "context" => some context
  | "sync-timeout" => some syncTimeout
  | "help" => some help
  | "version" => some version
  | _ => none

def ofLetter? : Char → Option OptionName
  | 'n' => some ns
  | 'a' => some apiVersion
  | 'k' => some kind
  | 'l' => some selector
  | 'w' => some watch
  | 'h' => some help
  | 'V' => some version
  | _ => none

end OptionName

/-! ## Values -/

/-- A count of seconds: digits, perhaps after a plus sign, that fit sixty-four bits. -/
def readSeconds? (text : String) : Option Nat :=
  let digits :=
    match text.toList with
    | '+' :: rest => rest
    | characters => characters
  let value := digits.foldl (fun value c => value * 10 + (c.toNat - '0'.toNat)) 0
  if !digits.isEmpty && digits.all (fun c => '0' ≤ c && c ≤ '9') && value < Nat.pow 2 64 then
    some value
  else none

def Arguments.set (arguments : Arguments) (option : OptionName) (value : String) :
    Except ArgumentsProblem Arguments :=
  match option with
  | .ns => .ok { arguments with ns := value }
  | .apiVersion => .ok { arguments with apiVersion := value }
  | .kind => .ok { arguments with kind := value }
  | .name => .ok { arguments with name := some value }
  | .selector => .ok { arguments with selector := some value }
  | .context => .ok { arguments with context := some value }
  | .syncTimeout =>
      match readSeconds? value with
      | some seconds => .ok { arguments with syncTimeout := seconds }
      | none => .error .invalidValue
  | _ => .ok arguments

/-! ## Reading -/

structure ArgumentReader where
  arguments : Arguments
  given : List OptionName
  /-- The option that was read last and its value, if it has one yet. -/
  pending : Option (OptionName × Option String)
deriving Repr

namespace ArgumentReader

/-- Takes in an option. It may be given once. -/
def takeIn (reader : ArgumentReader) (option : OptionName) (value : String) :
    Except ArgumentsProblem ArgumentReader := do
  if reader.given.contains option then throw .repeated
  let arguments ← reader.arguments.set option value
  return { reader with arguments, given := option :: reader.given }

def resolve (reader : ArgumentReader) : Except ArgumentsProblem ArgumentReader :=
  match reader.pending with
  | none => .ok reader
  | some (_, none) => .error .missingValue
  | some (option, some value) => { reader with pending := none }.takeIn option value

def readOption (reader : ArgumentReader) (option : OptionName) (value : Option String) :
    Except ArgumentsProblem ArgumentReader := do
  let reader ← reader.resolve
  match option, value with
  | .help, _ => throw .help
  | .version, _ => throw .version
  | .watch, _ =>
      let reader ← reader.takeIn .watch ""
      return { reader with arguments.watch := true }
  | _, some value => reader.takeIn option value
  | _, none => return { reader with pending := some (option, none) }

def readLong (reader : ArgumentReader) (text : String) :
    Except ArgumentsProblem ArgumentReader :=
  let (name, value) :=
    match Text.cut '=' text with
    | some (name, value) => (name, some value)
    | none => (text, none)
  match OptionName.ofLong? name with
  | none => .error .unknownArgument
  | some option =>
      if !option.takesValue && value.isSome then .error .needlessValue
      else reader.readOption option value

/-- Reads what follows one dash: letters of flags, then perhaps the letter of an option and its
value. -/
def readLetters (reader : ArgumentReader) : List Char → Except ArgumentsProblem ArgumentReader
  | [] => .ok reader
  | letter :: rest =>
      match OptionName.ofLetter? letter with
      | none => .error .unknownArgument
      | some option =>
          if option.takesValue then
            let value :=
              match rest with
              | '=' :: value => value
              | value => value
            reader.readOption option (if rest.isEmpty then none else some (String.ofList value))
          else
            match reader.readOption option none with
            | .ok reader => reader.readLetters rest
            | .error problem => .error problem

/-- Reads an argument that is not an option. It has to be the value of the option before it. -/
def readValue (reader : ArgumentReader) (text : String) :
    Except ArgumentsProblem ArgumentReader :=
  match reader.pending with
  | some (option, none) => .ok { reader with pending := some (option, some text) }
  | _ => .error .unknownArgument

def read (reader : ArgumentReader) (text : String) : Except ArgumentsProblem ArgumentReader :=
  match text.toList with
  | '-' :: '-' :: rest => reader.readLong (String.ofList rest)
  | '-' :: letter :: rest => reader.readLetters (letter :: rest)
  | _ => reader.readValue text

/-- Reads all arguments. After two dashes alone nothing may follow. -/
def readAll (reader : ArgumentReader) : List String → Except ArgumentsProblem ArgumentReader
  | [] => reader.resolve
  | "--" :: rest => if rest.isEmpty then reader.resolve else .error .unknownArgument
  | text :: rest =>
      match reader.read text with
      | .ok reader => reader.readAll rest
      | .error problem => .error problem

end ArgumentReader

def readArguments (arguments : List String) : Except ArgumentsProblem Arguments :=
  (ArgumentReader.readAll ⟨Arguments.standard, [], none⟩ arguments).map ArgumentReader.arguments

end ClusterCache.CommandLine
