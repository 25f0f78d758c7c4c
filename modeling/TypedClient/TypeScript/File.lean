import TypedClient.Text.Search
import TypedClient.TypeScript.Syntax

/-! A generated file: its declarations in order, and what it imports from where. -/

namespace TypedClient

/-- The names to import from each module, in the order in which the modules are first asked for. -/
abbrev Manifest := List (String × List ImportName)

namespace Manifest

/-- Adds names to a list, without those that are there already. -/
def addNames (existing : List ImportName) (names : List ImportName) : List ImportName :=
  names.foldl (fun kept item =>
    if kept.any fun k => k.name == item.name then kept else kept ++ [item]) existing

/-- Asks for names from a module; a name that has been asked for stays as it was first. -/
def request (source : String) (names : List ImportName) : Manifest → Manifest
  | [] => [(source, addNames [] names)]
  | (other, existing) :: rest =>
    if other == source then (other, addNames existing names) :: rest
    else (other, existing) :: request source names rest

/-- The import statements; a module of which nothing is asked has none. -/
def imports (manifest : Manifest) : List Import :=
  (manifest.filter fun entry => !entry.2.isEmpty).map fun entry => ⟨entry.1, entry.2⟩

end Manifest

/-- A name that is asked for: bare, or with all that an import says of it. -/
inductive RequestedName
  | bare (name : String)
  | full (item : ImportName)
  deriving DecidableEq, Repr

/-- What is imported for a name that is asked for; a bare one is imported as it is, and not as a type only. -/
def RequestedName.item : RequestedName → ImportName
  | bare name => { name }
  | full item => item

/-- A request to import a single name from a module, or each name of a list. -/
inductive ImportRequest
  | one (source : String) (name : RequestedName)
  | many (source : String) (names : List RequestedName)
  deriving DecidableEq, Repr

namespace ImportRequest

/-- The module that is asked. -/
def source : ImportRequest → String
  | one source _ | many source _ => source

/-- What is asked of the module. -/
def items : ImportRequest → List ImportName
  | one _ name => [name.item]
  | many _ names => names.map RequestedName.item

end ImportRequest

/-- A generated file. -/
structure OutputFile where
  name : String
  declarations : List Declaration := []
  manifest : Manifest := []

namespace OutputFile

/-- The file with further declarations. -/
def add (file : OutputFile) (declarations : List Declaration) : OutputFile :=
  { file with declarations := file.declarations ++ declarations }

/-- The file with further names imported from a module. -/
def importing (file : OutputFile) (source : String) (names : List ImportName) : OutputFile :=
  { file with manifest := file.manifest.request source names }

/-- The file that imports what is asked for, too. -/
def ask (file : OutputFile) (request : ImportRequest) : OutputFile :=
  file.importing request.source request.items

/-- The import statements of the file. -/
def imports (file : OutputFile) : List Import :=
  file.manifest.imports

/-- Whether the file declares nothing. -/
def isEmpty (file : OutputFile) : Bool :=
  file.declarations.isEmpty

/-- The text before the last occurrence of a part, or the whole text if there is none. -/
def beforeLast (part : List Char) : List Char → List Char
  | [] => []
  | c :: rest =>
    if Text.occurs part rest then c :: beforeLast part rest
    else if part.isPrefixOf (c :: rest) then [] else c :: rest

/-- The name of the file without its extension and what follows it. -/
def stem (file : OutputFile) : String :=
  String.ofList (beforeLast ".ts".toList file.name.toList)

/-- The module path under which other files of the directory refer to the file. -/
def modulePath (file : OutputFile) : String :=
  "./" ++ file.stem

end OutputFile

end TypedClient
