import TypedClient.Declaration.Services
import TypedClient.Document.Sections
import TypedClient.TypeScript.File

/-! The files that stand for a client. -/

namespace TypedClient

/-- What a generated file is for. -/
inductive FileRole
  | schemas
  | types
  | services
  | index
  deriving DecidableEq, Repr

/-- The name of a role. -/
def FileRole.name : FileRole → String
  | schemas => "schemas"
  | types => "types"
  | services => "services"
  | index => "index"

namespace Client

/-- A name imported as a type only. -/
def typeOnly (name : String) : ImportName :=
  { name, isTypeOnly := true }

/-- The constant that holds a schema as it stands in the document. -/
def schemaDeclaration (key : Scalar) (schema : Value) : Outcome Declaration := do
  let name ← (Value.scalar key).asText
  return .const ("$" ++ sanitizeIdentifier name) schema

/-- The file of the schemas as they stand in the document. -/
def schemasFile (document : Value) : Outcome OutputFile := do
  let schemas ← (← Document.schemas document).members
  let declarations ← schemas.mapM fun entry => schemaDeclaration entry.1 entry.2
  return { name := "schemas.gen.ts", declarations }

/-- The declarations of the models and of the enums inside them. -/
def modelDeclarations (client : Client) (config : Config) : Outcome (List Declaration) :=
  return (← client.models.mapM (Model.declarations config.enums)).flatten

/-- The declarations of the types of all operations. -/
def operationDeclarations (client : Client) (config : Config) : Outcome (List Declaration) := do
  if client.services.isEmpty then return []
  else if config.client = .fastify then Route.declarations client.operations
  else return (← client.operations.mapM Operation.declarations).flatten

/-- The file of the types. -/
def typesFile (client : Client) (config : Config) : Outcome OutputFile := do
  let bare : OutputFile := { name := "types.gen.ts" }
  let file :=
    if config.client = .fastify then bare.importing "fastify" [typeOnly "RouteHandler"] else bare
  let models ← client.modelDeclarations config
  let operations ← client.operationDeclarations config
  return file.add (models ++ operations)

/-- What every file of services imports, whatever the services are. -/
def runtimeImports (config : Config) : List (String × List ImportName) :=
  let library :=
    if config.client = .angular then
      [("@angular/core", [{ name := "Injectable" }]),
       ("@angular/common/http", [{ name := "HttpClient" }]),
       ("rxjs", [typeOnly "Observable"])]
    else [("./core/CancelablePromise", [typeOnly "CancelablePromise"])]
  let result :=
    if config.response = .response then [("./core/ApiResult", [typeOnly "ApiResult"])] else []
  library ++ result
    ++ [("./core/OpenAPI", [{ name := "OpenAPI" }]),
        ("./core/request", [{ name := "request", localName := some "__request" }])]

/-- The file of the services, which imports its types from the given file unless that is empty. -/
def servicesFile (client : Client) (config : Config) (types : Option OutputFile) :
    Outcome OutputFile := do
  let classes ← client.services.mapM fun service => service.classDeclaration config
  let bare : OutputFile := { name := "services.gen.ts", declarations := classes }
  let file := (runtimeImports config).foldl (fun file entry => file.importing entry.1 entry.2) bare
  let names := client.operations.flatMap Operation.typeImports
  match types with
  | some types =>
    if types.isEmpty then return file
    else return file.importing types.modulePath (names.map typeOnly)
  | none => return file

/-- The exports of the runtime. -/
def runtimeExports (config : Config) : List Declaration :=
  let result :=
    if config.response = .response then [.exportNamed "./core/ApiResult" [typeOnly "ApiResult"]]
    else []
  let promise :=
    if config.client = .angular then []
    else
      [.exportNamed "./core/CancelablePromise"
        [{ name := "CancelablePromise" }, { name := "CancelError" }]]
  [.exportNamed "./core/ApiError" [{ name := "ApiError" }]] ++ result ++ promise
    ++ [.exportNamed "./core/OpenAPI" [{ name := "OpenAPI" }, typeOnly "OpenAPIConfig"]]

/-- The file that passes on what the runtime and the other files export. -/
def indexFile (config : Config) (files : List OutputFile) : OutputFile :=
  let runtime := if config.exportCore.truthy then runtimeExports config else []
  let others := (files.filter fun file => !file.isEmpty).map fun file =>
    Declaration.exportAll file.modulePath
  { name := "index.ts", declarations := runtime ++ others }

/-- The files of a client that are to be written, each with its role. -/
def files (document : Value) (client : Client) (config : Config) :
    Outcome (List (FileRole × OutputFile)) := do
  let schemas ← if config.exportSchemas.truthy then some <$> schemasFile document else pure none
  let types ← if config.exportTypes.truthy then some <$> client.typesFile config else pure none
  let services ←
    if config.exportsServices then some <$> client.servicesFile config types else pure none
  let others := schemas.toList.map (Prod.mk FileRole.schemas)
    ++ types.toList.map (Prod.mk FileRole.types) ++ services.toList.map (Prod.mk FileRole.services)
  return others ++ [(FileRole.index, indexFile config (others.map Prod.snd))]

end Client

end TypedClient
