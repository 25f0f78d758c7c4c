import TypedClient.Client.Basic
import TypedClient.Config
import TypedClient.Document.Sections
import TypedClient.Document.Server
import TypedClient.Document.Version
import TypedClient.Operation.Resolve

/-! Building the client of a document. -/

namespace TypedClient

namespace Operation

/-- The keys of a path item that stand for operations. -/
def methods : List String :=
  ["get", "put", "post", "delete", "options", "head", "patch", "trace"]

/-- Appends the method to every name that an earlier operation had in the document. -/
def appendMethods (seen : List String) : List Operation → List Operation
  | [] => []
  | operation :: rest =>
    if seen.contains operation.name then
      -- The names that are given here are not taken into account any more.
      let method := String.ofList (Text.capitalize operation.method.toList)
      { operation with name := operation.name ++ method } :: appendMethods seen rest
    else operation :: appendMethods (operation.name :: seen) rest

/-- Appends to every repeated name how many times it has occurred. -/
def appendCounts (seen : List String) : List Operation → List Operation
  | [] => []
  | operation :: rest =>
    -- What is counted are the names from before, so a new name can still meet an old one.
    let earlier := seen.count operation.name
    let name := if earlier = 0 then operation.name else operation.name ++ toString (earlier + 1)
    { operation with name } :: appendCounts (operation.name :: seen) rest

/-- Gives operations with the same name names of their own. -/
def distinguish (operations : List Operation) : List Operation :=
  appendCounts [] (appendMethods [] operations)

end Operation

namespace Service

/-- The service for operations without a tag. -/
def defaultTag : String := "Default"

/-- The tags of an operation, each once; an operation without any has the default one. -/
def tagsOf (definition : Value) : Outcome (List Value) := do
  let tags ← ((← definition.get "tags").orElse (.list [])).asKeys
  return if tags.isEmpty then [.text defaultTag] else tags

/-- The operations of an entry of a path item, one for each tag. -/
def operationsOf (document : Value) (config : Config) (url : Value) (shared : List Parameter)
    (key : Scalar) (definition : Value) : Outcome (List Operation) :=
  match key with
  | .text method =>
    if Operation.methods.contains method then do
      -- An operation with several tags is in several services.
      let tags ← tagsOf definition
      tags.mapM fun tag => Operation.resolve document url method tag definition shared config
    else return []
  | _ => return []

/-- The operations of a path, in the order of its entries. -/
def operationsOfPath (document : Value) (config : Config) (url : Scalar) (item : Value) :
    Outcome (List Operation) := do
  let parameters := (← item.get "parameters").orElse (.list [])
  -- The parameters of the path are resolved once for all of its operations.
  let shared ← Parameter.ofList document parameters
  let entries ← item.members
  let operations ← entries.mapM fun entry =>
    operationsOf document config (.scalar url) shared entry.1 entry.2
  return operations.flatten

/-- Adds an operation to the service it belongs to, which is opened if need be. -/
def place (operation : Operation) : List Service → List Service
  | [] => [Service.add { name := operation.service } operation]
  | service :: rest =>
    if service.name == operation.service then
      service.add operation :: rest
    else service :: place operation rest

/-- Operations grouped into services, in the order in which the services first occur. -/
def group (operations : List Operation) : List Service :=
  operations.foldl (fun services operation => place operation services) []

/-- The services of a document. -/
def all (document : Value) (config : Config) : Outcome (List Service) := do
  let paths ← (← Document.paths document).members
  let operations ← paths.mapM fun entry => operationsOfPath document config entry.1 entry.2
  return (group operations.flatten).map fun service =>
    { service with operations := Operation.distinguish service.operations }

end Service

namespace EnumRegistry

/-- Names one enum, or leaves it without a name if its own is taken. -/
def nameEnum (registry : EnumRegistry) (enum : Model) : Model × EnumRegistry :=
  let (name, registry) := registry.assign enum.name.display
  ({ enum with enumName := name }, registry)

/-- Names enums one after the other. -/
def nameEnums (registry : EnumRegistry) : List Model → List Model × EnumRegistry
  | [] => ([], registry)
  | enum :: rest =>
    let (enum, registry) := nameEnum registry enum
    let (rest, registry) := nameEnums registry rest
    (enum :: rest, registry)

/-- Names a model if it is an enum, and then the enums found inside it. -/
def nameModel (registry : EnumRegistry) (model : Model) : Model × EnumRegistry :=
  -- An enum is named before those inside it, so it is the one that gets the name if they share it.
  let (model, registry) := if model.isEnum then nameEnum registry model else (model, registry)
  let (enums, registry) := nameEnums registry model.enums
  ({ model with enums }, registry)

/-- Names the enums of models one after the other. -/
def nameModels (registry : EnumRegistry) : List Model → List Model × EnumRegistry
  | [] => ([], registry)
  | model :: rest =>
    let (model, registry) := nameModel registry model
    let (rest, registry) := nameModels registry rest
    (model :: rest, registry)

end EnumRegistry

namespace Client

/-- The address of the service: the configured one if there is one. -/
def address (document : Value) (config : Config) : Outcome Value :=
  if config.base.truthy then return config.base
  else return .text (← Document.server document)

/-- The client of a document whose models are resolved already. -/
def ofModels (document : Value) (config : Config) (models : List Model) : Outcome Client := do
  let services ← Service.all document config
  let server ← address document config
  let version ← Document.serviceVersion document
  let (models, enumNames) := EnumRegistry.nameModels [] models
  return { models, services, enumNames, server, version }

/-- The client of a document. -/
def ofDocument (document : Value) (config : Config) : Outcome Client := do
  -- A document of an unknown version is refused before anything of it is read.
  let _ ← Document.majorVersion document
  ofModels document config (← Schema.models document)

end Client

end TypedClient
