import TypedClient.Declaration.Operations

/-! The classes that stand for services, one method for each operation. -/

namespace TypedClient

namespace Parameter

/-- The expression that a method reads the parameter from. -/
def source (parameter : Parameter) (config : Config) : Expression :=
  .identifier ((if config.usesOptions then "data." else "") ++ parameter.name.display)

/-- The line of a comment that describes the parameter. -/
def commentLine (parameter : Parameter) (config : Config) : Outcome String := do
  let owner := if config.usesOptions then "data." else ""
  return "@param " ++ owner ++ parameter.name.display ++ " " ++ (← commentText parameter.description)

/-- The parameter as one of a method, whose type is a member of the type of all parameters. -/
def positional (dataType : String) (parameter : Parameter) : FunctionParameter :=
  let default := match parameter.default with
    | .null => none
    | value => some (Initializer.value value)
  { name := parameter.name
    type := some (.indexed (.reference dataType []) parameter.name)
    -- A parameter with a default can be left out without a question mark.
    isRequired := parameter.isRequired || default.isSome
    default }

end Parameter

namespace Operation

/-- The parameters of the method: one object for all, or one for each. -/
def methodParameters (operation : Operation) (config : Config) : List FunctionParameter :=
  if operation.parameters.isEmpty then []
  else if config.usesOptions then
    -- The object may be left out if all its members may.
    let isOptional := operation.parameters.all fun parameter => !parameter.isRequired
    [{ name := .text "data"
       type := some (.reference operation.dataTypeName [])
       default := if isOptional then some (.expression (.object [])) else none }]
  else operation.parameters.map (Parameter.positional operation.dataTypeName)

/-- The type of what the method returns: a promise, or what takes its place. -/
def returnType (operation : Operation) (config : Config) : TypeExpr :=
  -- Without a success response, nothing is returned.
  let payload : TypeExpr :=
    if operation.results.isEmpty then .reference "void" []
    else .reference operation.responseTypeName []
  let result : TypeExpr :=
    if config.usesOptions && config.response = .response then .reference "ApiResult" [payload]
    else payload
  let wrapper := if config.client = .angular then "Observable" else "CancelablePromise"
  .reference wrapper [result]

/-- The types that the method refers to. -/
def typeImports (operation : Operation) : List String :=
  -- Both conditions are those under which the types are declared.
  (if operation.parameters.isEmpty then [] else [operation.dataTypeName])
    ++ if operation.results.isEmpty then [] else [operation.responseTypeName]

/-- The line of a comment that describes a response. -/
def returnsLine (response : Response) : Outcome String := do
  return "@returns " ++ response.schema.type.text ++ " " ++ (← commentText response.description)

/-- The lines of a comment that describe the parameters. -/
def parameterLines (operation : Operation) (config : Config) : Outcome (List String) := do
  let lines ← operation.parameters.mapM fun parameter => parameter.commentLine config
  if config.usesOptions && !operation.parameters.isEmpty then
    return "@param data The data for the request." :: lines
  else return lines

/-- The comment of the method. -/
def comment (operation : Operation) (config : Config) : Outcome (List String) := do
  let params ← operation.parameterLines config
  let summary ← commentText operation.summary
  let description ← commentText operation.description
  let returns ← operation.results.mapM returnsLine
  return [if operation.deprecated then "@deprecated" else "", summary, description]
    ++ params ++ returns ++ ["@throws ApiError"]

/-- An entry of the request for the parameters of a location, if there are any. -/
def locatedEntry (operation : Operation) (config : Config) (entry : String × Location) :
    Outcome (List (String × Expression)) := do
  let parameters := operation.located entry.2
  if parameters.isEmpty then return []
  let entries ← parameters.mapM fun parameter => do
    return (← escapeKeyValue parameter.prop, parameter.source config)
  return [(entry.1, .object entries)]

/-- The entries of a request that hold parameters, and where those are sent. -/
def requestEntries : List (String × Location) :=
  [("path", .path), ("cookies", .cookie), ("headers", .header), ("query", .query),
   ("formData", .formData)]

/-- The entries of the request for the body and its media type. -/
def bodyEntries (operation : Operation) (config : Config) : List (String × Expression) :=
  match operation.body with
  | none => []
  | some body =>
    -- A form that is the request body is passed like the fields of one.
    let key := if body.location = .formData then "formData" else "body"
    let mediaType := if body.mediaType.truthy then [("mediaType", .literal body.mediaType)] else []
    (key, body.source config) :: mediaType

/-- The entries of the request that say how to read the response. -/
def responseEntries (operation : Operation) : List (String × Expression) :=
  let header :=
    if operation.responseHeader.truthy then
      [("responseHeader", Expression.literal operation.responseHeader)]
    else []
  let errors :=
    if operation.errors.isEmpty then []
    else
      [("errors", Expression.object (operation.errors.map fun response =>
        (response.code.text, .literal (response.description.orElse (.text "")))))]
  header ++ errors

/-- The object that describes the request. -/
def request (operation : Operation) (config : Config) : Outcome Expression := do
  let located ← requestEntries.mapM (operation.locatedEntry config)
  return .object
    ([("method", .literal (.text operation.method)), ("url", .literal operation.path)]
      ++ located.flatten ++ operation.bodyEntries config ++ operation.responseEntries)

/-- The method that carries the operation out. -/
def toMethod (operation : Operation) (config : Config) : Outcome Method := do
  -- In a class of that client, the library is a member that the method passes on.
  let http := if config.client = .angular then [Expression.identifier "this.http"] else []
  let request ← operation.request config
  let comment ← operation.comment config
  return {
    name := operation.name
    parameters := operation.methodParameters config
    returnType := operation.returnType config
    statements := [⟨"__request", Expression.identifier "OpenAPI" :: http ++ [request]⟩]
    comment
    isStatic := config.client != .angular }

end Operation

namespace Service

/-- The name of the class of a service. -/
def className (service : Service) (config : Config) : Outcome String := do
  let pattern ← config.serviceName.asEditable
  return String.ofList
    (Text.replaceAll namePlaceholder.toList service.name.toList pattern.toList)

/-- The constructor through which the class is given its HTTP client. -/
def httpConstructor : List FunctionParameter :=
  [{ name := .text "http"
     type := some (.reference "HttpClient" [])
     accessLevel := "public"
     isReadOnly := true }]

/-- The decorator that makes the class available everywhere. -/
def injectable : Decorator :=
  { name := "Injectable", args := [.object [("providedIn", .literal (.text "root"))]] }

/-- The class of a service. -/
def classDeclaration (service : Service) (config : Config) : Outcome Declaration := do
  let methods ← service.operations.mapM fun operation => operation.toMethod config
  let name ← service.className config
  let isAngular := config.client = .angular
  return .ofClass {
    name
    methods
    constructor := if isAngular then some httpConstructor else none
    decorator := if isAngular then some injectable else none }

end Service

end TypedClient
