import TypedClient.Operation.Responses
import TypedClient.Text.Case

/-! Resolving an operation under one of its tags. -/

namespace TypedClient.Operation

/-- The media type that an operation, or else its document, says it takes; null if neither does. -/
def consumed (document : Value) (members : Members) : Outcome Value := do
  -- What the operation says stands above what the document says for all of them.
  let own := members.get "consumes"
  let consumes ←
    if own.truthy then pure own else pure ((← document.get "consumes").orElse (.list []))
  -- Only the first of several media types is taken.
  if consumes.truthy then consumes.part (.int 0) else return .null

/-- A parameter that is a body takes the media type that its operation does. -/
def withMediaType (document : Value) (members : Members) (parameter : Parameter) :
    Outcome Parameter := do
  if parameter.location = .body then
    return { parameter with mediaType := ← consumed document members }
  else return parameter

/-- The request body of an operation, if it has one. -/
def bodyOf? (document : Value) (members : Members) : Outcome (Option Parameter) := do
  match members.get? "requestBody" with
  | some body => return some (← Parameter.ofBody (← Document.dereference document body))
  | none => return none

/-- The operation that one entry of a path item stands for under one tag. -/
def resolve (document url : Value) (method : String) (tag definition : Value)
    (pathParameters : List Parameter) (config : Config) : Outcome Operation := do
  let members ← definition.members
  let id := members.get "operationId"
  let name ← operationName url method config id
  let service ← serviceName tag
  -- The path has parameters for all of its operations, which an operation can override.
  let own ← Parameter.ofList document ((members.get "parameters").orElse (.list []))
  let declared ← (Parameter.merge pathParameters own).mapM (withMediaType document members)
  let requestBody ← bodyOf? document members
  let responses ←
    if (members.get "responses").truthy then Response.ofMap document (members.get "responses")
    else pure []
  return {
    name, service, id, declared, requestBody, responses
    method := String.ofList (Text.toUpper method.toList)
    path := url
    summary := (members.get "summary").orNull
    description := (members.get "description").orNull
    deprecated := (members.get "deprecated").isTrue }

end TypedClient.Operation
