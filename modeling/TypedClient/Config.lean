import TypedClient.Value.Access

/-! The options of a run. -/

namespace TypedClient

/-- The HTTP library that the generated client builds on. -/
inductive ClientKind
  | fetch
  | axios
  | angular
  | fastify
  deriving DecidableEq, Repr

/-- How enums are declared: as unions of literals, as TypeScript enums, or as unions with an object. -/
inductive EnumStyle
  | union
  | typescript
  | javascript
  deriving DecidableEq, Repr

/-- What a call gives back: the body of the response, or the response with its status. -/
inductive ResponseStyle
  | body
  | response
  deriving DecidableEq, Repr

/-- The names of the client kinds. -/
def ClientKind.names : List (String × ClientKind) :=
  [("fetch", .fetch), ("axios", .axios), ("angular", .angular), ("fastify", .fastify)]

/-- The names of the enum styles. -/
def EnumStyle.names : List (String × EnumStyle) :=
  [("union", .union), ("typescript", .typescript), ("javascript", .javascript)]

/-- The names of the response styles. -/
def ResponseStyle.names : List (String × ResponseStyle) :=
  [("body", .body), ("response", .response)]

/-- The name that stands for a choice in a table of names. -/
def nameOf {α : Type} [DecidableEq α] (names : List (String × α)) (choice : α) : String :=
  ((names.find? fun entry => entry.2 = choice).map Prod.fst).getD ""

/-- The place in a service name where the name of the service is put. -/
def namePlaceholder : String :=
  "\x7b\x7bname\x7d\x7d"

/-- The options of a run; those that only switch something may hold any value that counts as true or not. -/
structure Config where
  client : ClientKind := .fetch
  enums : EnumStyle := .union
  operationId : Value := .bool true
  useOptions : Value := .bool true
  response : ResponseStyle := .body
  serviceName : Value := .text (namePlaceholder ++ "Service")
  base : Value := .null
  exportCore : Value := .bool true
  exportServices : Value := .bool true
  exportTypes : Value := .bool true
  exportSchemas : Value := .bool false

namespace Config

/-- The names of all options, in their order. -/
def optionNames : List String :=
  ["client", "enums", "operation_id", "use_options", "response", "service_name", "base",
   "export_core", "export_services", "export_types", "export_schemas"]

/-- All options with their values. -/
def toMembers (config : Config) : Members :=
  [(.text "client", .text (nameOf ClientKind.names config.client)),
   (.text "enums", .text (nameOf EnumStyle.names config.enums)),
   (.text "operation_id", config.operationId),
   (.text "use_options", config.useOptions),
   (.text "response", .text (nameOf ResponseStyle.names config.response)),
   (.text "service_name", config.serviceName),
   (.text "base", config.base),
   (.text "export_core", config.exportCore),
   (.text "export_services", config.exportServices),
   (.text "export_types", config.exportTypes),
   (.text "export_schemas", config.exportSchemas)]

/-- The choice that a value names, which has to be one of the given ones. -/
def choose {α : Type} (option : String) (names : List (String × α)) (given : Value) : Outcome α :=
  let refused : Outcome α := .error (.invalidChoice option given (names.map Prod.fst))
  match given with
  | .text s =>
    match names.lookup s with
    | some choice => .ok choice
    | none => refused
  | _ => refused

/-- Whether a key is the name of an option. -/
def isOption : Scalar → Bool
  | .text s => optionNames.contains s
  | _ => false

/-- Another configuration with some options set anew; every option must exist and have an allowed value. -/
def set (config : Config) (options : Members) : Outcome Config := do
  if !options.all fun option => isOption option.1 then misfit .wrongKind
  let given := fun name => (Members.get? options name).getD (config.toMembers.get name)
  let client ← choose "client" ClientKind.names (given "client")
  let enums ← choose "enums" EnumStyle.names (given "enums")
  let style ← choose "response" ResponseStyle.names (given "response")
  let serviceName := given "service_name"
  if !(← serviceName.mentions namePlaceholder) then .error (.placeholderMissing serviceName)
  return {
    client, enums, serviceName
    response := style
    operationId := given "operation_id"
    useOptions := given "use_options"
    base := given "base"
    exportCore := given "export_core"
    exportServices := given "export_services"
    exportTypes := given "export_types"
    exportSchemas := given "export_schemas" }

/-- The configuration with the given options, the others at their defaults. -/
def ofOptions (options : Members) : Outcome Config :=
  ({} : Config).set options

/-- Another configuration with some options set anew, where null leaves an option as it is. -/
def override (config : Config) (options : Members) : Outcome Config :=
  config.set (options.filter fun option => !(option.2 matches .null))

/-- Whether parameters are passed as one object. -/
def usesOptions (config : Config) : Bool :=
  config.useOptions.truthy

/-- What says whether service classes are written; a server that implements the routes needs none. -/
def servicesSwitch (config : Config) : Value :=
  if config.exportServices.truthy then .bool (config.client != .fastify) else config.exportServices

/-- Whether service classes are written. -/
def exportsServices (config : Config) : Bool :=
  config.servicesSwitch.truthy

end Config

end TypedClient
