import TypedClient.CommandLine.Arguments
import TypedClient.Loading
import TypedClient.Output

/-! A run of the command: what it reports, what it writes and how it ends. -/

namespace TypedClient.CommandLine

/-- A step of a run that is reported on request. -/
inductive Event
  | resolved (models : Nat)
  /-- An enum is not exported, as its name is given out already. -/
  | unexported (name : Value)
  | parsed (version models services : Nat)
  | compiled (file : String) (declarations : Nat)
  | wrote (path : Path)

/-- The line that reports a step. -/
def Event.line : Event → String
  | resolved models =>
    "DEBUG:openapi_ts.model_parser:Resolved " ++ toString models ++ " models"
  | unexported name =>
    "DEBUG:openapi_ts.client_builder:Enum " ++ name.inspect
      ++ " collides with an exported enum; not exported"
  | parsed version models services =>
    "DEBUG:openapi_ts.client_builder:Parsed OpenAPI " ++ toString version ++ " document: "
      ++ toString models ++ " models, " ++ toString services ++ " services"
  | compiled file declarations =>
    "DEBUG:openapi_ts.emitter:Compiled " ++ file ++ ": " ++ toString declarations ++ " nodes"
  | wrote path => "INFO:openapi_ts.codegen:Wrote " ++ path.text

/-- What a run has printed and written so far. -/
structure Progress where
  lines : List String := []
  tree : FileTree

/-- A part of a run; what it has printed and written stays if it fails. -/
abbrev Run := ExceptT Error (StateM Progress)

namespace Run

/-- The answer of a computation as a part of a run. -/
def lift {α : Type} (outcome : Outcome α) : Run α :=
  ExceptT.mk (pure outcome)

/-- Prints a line. -/
def print (line : String) : Run Unit :=
  modify fun progress => { progress with lines := progress.lines ++ [line] }

/-- Reports a step if steps are to be reported. -/
def report (arguments : Arguments) (event : Event) : Run Unit :=
  if arguments.debug then print event.line else pure ()

/-- Writes a file below the output directory. -/
def write (arguments : Arguments) (page : Page) : Run Unit := do
  let path := arguments.output.append (.ofText page.1)
  let text? := Text.plain? page.2
  -- A text that no file can hold leaves the file empty.
  let tree ← lift ((← get).tree.write path (text?.getD ""))
  modify fun progress => { progress with tree }
  if text?.isNone then lift (misfit .notEncodable)
  report arguments (.wrote path)

/-- The configuration of a run: the options of the file, if there is one, and those given. -/
def config (arguments : Arguments) : Outcome Config := do
  let ofFile ←
    match arguments.config with
    | some (path, text) => Config.ofText path (← text)
    | none => Config.ofOptions []
  ofFile.override arguments.overrides

/-- The client of a document, its making reported. -/
def client (arguments : Arguments) (document : Value) (config : Config) : Run Client := do
  let version ← lift (Document.majorVersion document)
  let models ← lift (Schema.models document)
  report arguments (.resolved models.length)
  let client ← lift (Client.ofModels document config models)
  for enum in client.enums do
    if enum.enumName.isNone then report arguments (.unexported enum.name)
  report arguments (.parsed version client.models.length client.services.length)
  return client

/-- Generates everything for a document and gives the number of files. -/
def generate (arguments : Arguments) (document : Value) (config : Config) : Run Nat := do
  let client ← client arguments document config
  let files ← lift (client.files document config)
  for file in files do
    report arguments (.compiled file.2.name file.2.declarations.length)
  -- All texts are made before the first of them is written.
  let pages ← lift (client.render (files.map Prod.snd) config)
  for page in pages do
    write arguments page
  return pages.length

/-- A whole run. -/
def perform (arguments : Arguments) : Run Unit := do
  let config ← lift (config arguments)
  print ("Reading " ++ arguments.input.text ++ "...")
  let document ← lift (arguments.inputText >>= Document.ofText arguments.input)
  let count ← generate arguments document config
  print ("Generated " ++ toString count ++ " files in " ++ arguments.output.text)

end Run

/-- How a run has ended. -/
structure Result where
  exitCode : Nat
  /-- Everything that was printed. -/
  output : String
  /-- The failure that the run did not report as its own, if there was one. -/
  failure : Option Error := none
  /-- The files as they are after the run. -/
  tree : FileTree

/-- How the command is called. -/
def usage : String :=
  "Usage: typed-client [OPTIONS] INPUT -o OUTPUT\n"

/-- Does what the arguments of a command line ask for with the given files. -/
def perform (tree : FileTree) : Parsed → Result
  | .usageError => { exitCode := 2, output := usage, tree }
  | .help => { exitCode := 0, output := usage, tree }
  | .run arguments =>
    let (outcome, progress) := Id.run ((Run.perform arguments).run.run { tree })
    let tree := progress.tree
    match outcome with
    | .ok () => { exitCode := 0, output := endedLines progress.lines, tree }
    | .error e =>
      if e.isReported then
        let line := "Error: " ++ e.message.getD ""
        { exitCode := 1, output := endedLines (progress.lines ++ [line]), tree }
      else { exitCode := 1, output := endedLines progress.lines, failure := some e, tree }

/-- Runs the command on the given files. -/
def run (tree : FileTree) (arguments : List String) : Result :=
  perform tree (parse tree.find? arguments)

end TypedClient.CommandLine
