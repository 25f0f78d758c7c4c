import TypedClient.Config
import TypedClient.Files.Tree

/-! The command line: which arguments it takes and what they say. -/

namespace TypedClient.CommandLine

/-- What an option does. -/
inductive OptionKind
  /-- It takes the value that follows it. -/
  | valued
  /-- It is given or not. -/
  | given (value : Value)
  deriving Repr

/-- The options under their names, each with the name of what it sets. -/
def options : List (String × String × OptionKind) :=
  [("--output", "output", .valued), ("-o", "output", .valued),
   ("--client", "client", .valued), ("-c", "client", .valued),
   ("--enums", "enums", .valued),
   ("--operation-id", "operation_id", .given (.bool true)),
   ("--no-operation-id", "operation_id", .given (.bool false)),
   ("--use-options", "use_options", .given (.bool true)),
   ("--no-use-options", "use_options", .given (.bool false)),
   ("--config", "config", .valued),
   ("--debug", "debug", .given (.bool true)),
   ("--help", "help", .given (.bool true))]

/-- Arguments sorted out: what the options set, later settings last, and the other arguments. -/
structure Sorted where
  settings : Members := []
  others : List String := []

namespace Sorted

/-- Notes a setting. -/
def set (sorted : Sorted) (name : String) (value : Value) : Sorted :=
  { sorted with settings := Members.insert (.text name) value sorted.settings }

/-- Notes an argument that is no option. -/
def addOther (sorted : Sorted) (argument : String) : Sorted :=
  { sorted with others := sorted.others ++ [argument] }

end Sorted

/-- The settings of letters that stand together after one hyphen; a letter that takes a value takes
the letters after it, and `none` is left over if there are no such letters. -/
def readLetters (sorted : Sorted) : List Char → Option (Sorted × Option String)
  | [] => some (sorted, none)
  | c :: rest =>
    match options.lookup (String.ofList ['-', c]) with
    | some (name, .given value) => readLetters (sorted.set name value) rest
    | some (name, .valued) =>
      if rest.isEmpty then some (sorted, some name)
      else some (sorted.set name (.text (String.ofList rest)), none)
    | none => none

/-- The setting of a long option, or the name of what it sets if its value is still to come. -/
def readLong (sorted : Sorted) (argument : List Char) : Option (Sorted × Option String) :=
  let name := argument.takeWhile (· != '=')
  let attached := (argument.drop name.length).drop 1
  let hasValue := name.length < argument.length
  match options.lookup (String.ofList name) with
  | some (target, .valued) =>
    if hasValue then some (sorted.set target (.text (String.ofList attached)), none)
    else some (sorted, some target)
  | some (target, .given value) => if hasValue then none else some (sorted.set target value, none)
  | none => none

/-- Sorts arguments out, where `pending` is what the next argument is the value of; there is no
result if an option does not exist or lacks its value. -/
def sortOut (sorted : Sorted) (pending : Option String) : List String → Option Sorted
  | [] => if pending.isSome then none else some sorted
  | argument :: rest =>
    match pending with
    | some name => sortOut (sorted.set name (.text argument)) none rest
    | none =>
      match argument.toList with
      | ['-', '-'] => some { sorted with others := sorted.others ++ rest }
      | '-' :: '-' :: _ => do
        let (sorted, pending) ← readLong sorted argument.toList
        sortOut sorted pending rest
      | '-' :: c :: letters => do
        let (sorted, pending) ← readLetters sorted (c :: letters)
        sortOut sorted pending rest
      | _ => sortOut (sorted.addOther argument) none rest

/-- What a run is asked to do. -/
structure Arguments where
  input : Path
  inputText : Outcome String
  output : Path
  config : Option (Path × Outcome String) := none
  /-- The options that take precedence over those of the file. -/
  overrides : Members := []
  debug : Bool := false

/-- What arguments come to. -/
inductive Parsed
  | run (arguments : Arguments)
  | help
  | usageError

/-- What each written path leads to. -/
abbrev Lookup := String → Option FileKind

/-- The file that a written path has to lead to. -/
def readable (find? : Lookup) (written : String) : Option (Path × Outcome String) :=
  match find? written with
  | some (.file text) => some (.ofText written, text)
  | _ => none

/-- Whether a setting is absent or one of the given names. -/
def isChoice (names : List String) : Value → Bool
  | .null => true
  | .text s => names.contains s
  | _ => false

/-- The configuration file that a setting names, if it names one; it has to exist. -/
def configFile (find? : Lookup) : Value → Option (Option (Path × Outcome String))
  | .text written => (readable find? written).map some
  | _ => some none

/-- The directory that a setting names; it need not exist, but must not be a file. -/
def outputDirectory (find? : Lookup) : Value → Option Path
  | .text written => if (readable find? written).isSome then none else some (.ofText written)
  | _ => none

/-- The run that sorted arguments ask for, if they name one input and everything has its kind. -/
def arguments? (find? : Lookup) (sorted : Sorted) : Option Arguments := do
  let get := fun name => Members.get sorted.settings name
  let [written] := sorted.others | none
  let (input, inputText) ← readable find? written
  let output ← outputDirectory find? (get "output")
  let config ← configFile find? (get "config")
  if !isChoice (ClientKind.names.map Prod.fst) (get "client") then none
  else if !isChoice (EnumStyle.names.map Prod.fst) (get "enums") then none
  else
    let names := ["client", "enums", "operation_id", "use_options"]
    return {
      input, inputText, output, config
      overrides := names.map fun name => (.text name, get name)
      debug := (get "debug").truthy }

/-- What the arguments of a command line ask for. -/
def parse (find? : Lookup) (arguments : List String) : Parsed :=
  match sortOut {} none arguments with
  | none => .usageError
  | some sorted =>
    if Members.has sorted.settings "help" then .help
    else
      match arguments? find? sorted with
      | some arguments => .run arguments
      | none => .usageError

end TypedClient.CommandLine
