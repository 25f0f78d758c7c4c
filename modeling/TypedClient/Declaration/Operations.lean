import TypedClient.Client.Basic
import TypedClient.Declaration.Models
import TypedClient.Name.CamelCase
import TypedClient.TypeScript.Print

/-! The types that stand for the parameters and responses of operations. -/

namespace TypedClient

/-- The member that stands for a parameter. -/
def Parameter.member (parameter : Parameter) : Outcome (Member TypeExpr) := do
  let type ← parameter.schema.typeExpr
  return {
    name := parameter.name
    type := type.nullable parameter.isNullable
    isRequired := parameter.isRequired
    comment := [← commentText parameter.description] }

namespace Operation

/-- The common part of the names of the types of an operation. -/
def typeName (operation : Operation) : String :=
  pascalCase operation.service ++ pascalCase operation.name

/-- The name of the type of the parameters. -/
def dataTypeName (operation : Operation) : String :=
  operation.typeName ++ "Data"

/-- The name of the type of the responses. -/
def responseTypeName (operation : Operation) : String :=
  operation.typeName ++ "Response"

/-- The type of the parameters, if there are any. -/
def dataDeclaration (operation : Operation) : Outcome (List Declaration) :=
  if operation.parameters.isEmpty then return []
  else do
    let members ← operation.parameters.mapM Parameter.member
    return [.typeAlias operation.dataTypeName (.object members) []]

/-- The type of the responses, if there is a success response. -/
def responseDeclaration (operation : Operation) : Outcome (List Declaration) :=
  if operation.results.isEmpty then return []
  else do
    let types ← operation.results.mapM (·.schema.typeExpr)
    return [.typeAlias operation.responseTypeName (.unionOf types) []]

/-- The types of the parameters and of the responses. -/
def declarations (operation : Operation) : Outcome (List Declaration) :=
  return (← operation.dataDeclaration) ++ (← operation.responseDeclaration)

end Operation

/-- The names under which the types of all routes are declared. -/
def routesTypeName : String := "OperationsT"

/-- The name under which the type of the controllers is declared. -/
def controllersTypeName : String := "Controllers"

namespace Route

/-- A section of a route whose members are parameters, if there are any. -/
def sectionOf (key : String) (parameters : List Parameter) : Outcome (List (Member TypeExpr)) :=
  if parameters.isEmpty then return []
  else return [{ name := .text key, type := .object (← parameters.mapM Parameter.member) }]

/-- Parameters in ascending order of their names. -/
def byName (parameters : List Parameter) : List Parameter :=
  parameters.mergeSort fun p q => p.name.display ≤ q.name.display

/-- The reply that stands for a response. -/
def reply (response : Response) : Outcome (Member TypeExpr) := do
  let type ← response.schema.typeExpr
  return {
    name := .text response.code.text
    type
    comment := [← commentText response.description] }

/-- Puts a reply in the place of one with the same name, or else at the end. -/
def putReply (reply : Member TypeExpr) : List (Member TypeExpr) → List (Member TypeExpr)
  | [] => [reply]
  -- The later reply wins, at the place of the earlier one.
  | other :: rest => if other.name == reply.name then reply :: rest else other :: putReply reply rest

/-- The sections of a route: what it takes and what it replies. -/
def sections (operation : Operation) : Outcome (List (Member TypeExpr)) := do
  let params ← sectionOf "Params" (byName (operation.located .path))
  let query ← sectionOf "Querystring" (byName (operation.located .query))
  let header ← sectionOf "Header" (byName (operation.located .header))
  let body ← sectionOf "Body" operation.body.toList
  -- A response that is for no success and no error has no reply.
  let replies ← (operation.results ++ operation.errors).mapM reply
  let distinct := replies.foldl (fun kept r => putReply r kept) []
  let replySection :=
    if distinct.isEmpty then [] else [{ name := .text "Reply", type := TypeExpr.object distinct }]
  return params ++ query ++ header ++ body ++ replySection

/-- Whether there is anything to say about a route. -/
def isDeclared (operation : Operation) : Bool :=
  !operation.parameters.isEmpty || !operation.results.isEmpty || !operation.errors.isEmpty

/-- The member that stands for a route. -/
def member (operation : Operation) : Outcome (Member TypeExpr) :=
  -- A route is known by the name of its operation.
  return { name := .text operation.name, type := .object (← sections operation) }

/-- The type of a controller for every route, whose handler takes the body without its wrapping. -/
def controllersType : String :=
  braced (" [OperationId in keyof " ++ routesTypeName ++ "]: RouteHandler<"
    ++ braced (" [Param in keyof " ++ routesTypeName ++ "[OperationId]]: "
      ++ routesTypeName ++ "[OperationId][Param] extends "
      ++ braced " requestBody: infer Body; " ++ " ? Body : "
      ++ routesTypeName ++ "[OperationId][Param]; ")
    ++ "> ")

/-- The types of all routes and of the controllers that serve them. -/
def declarations (operations : List Operation) : Outcome (List Declaration) := do
  let members ← (operations.filter isDeclared).mapM member
  return [.typeAlias routesTypeName (.object members) [],
    .typeAlias controllersTypeName (.raw controllersType) []]

end Route

end TypedClient
