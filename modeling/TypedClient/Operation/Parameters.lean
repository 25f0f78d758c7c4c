import TypedClient.Operation.Basic
import TypedClient.Operation.Content
import TypedClient.Operation.Name
import TypedClient.Schema.Declared

/-! Resolving the parameters and the request body of an operation. -/

namespace TypedClient.Parameter

/-- The model and the default of a parameter that describes its value by a schema. -/
def ofSchema (document schema : Value) : Outcome (Model × Value) := do
  let target ← Content.followInto ["#/components/parameters/", "#/parameters/"] document schema
  let model ← Schema.resolve (.text "") target
  return (model, ← target.get "default")

/-- The model and the default of a parameter, whose members may be those of a schema themselves. -/
def typeOf (document : Value) (members : Members) : Outcome (Model × Value) := do
  let schema := members.get "schema"
  if schema.truthy then ofSchema document schema
  else
    -- In the earlier version of the format, a parameter is described like a schema, but only by its type.
    let default := members.get "default"
    let enum ← Schema.enumValues members
    if !enum.isEmpty then return ({ Model.emptyEnum with enum }, default)
    else if members.get "type" == .text "array" && (members.get "items").truthy then
      let items ← (members.get "items").members
      let type ← resolveType (items.get "type") (items.get "format")
      return ({ variant := .array, type := { type.toTypeUse with refs := [] } }, default)
    else if (members.get "type").truthy then
      let type ← resolveType (members.get "type") (members.get "format")
      let use := { type.toTypeUse with refs := [] }
      return ({ variant := .generic, type := use, isNullable := type.isNullable }, default)
    else return (.unknown, .null)

/-- The parameter with the given members, sent at the given location. -/
def ofMembers (document : Value) (members : Members) (location : Location) : Outcome Parameter := do
  let wire := (members.get? "name").getD (.text "")
  let name ← parameterName wire
  let (schema, default) ← typeOf document members
  return {
    name := .text name
    prop := wire
    location
    schema
    description := (members.get "description").orNull
    isRequired := (members.get "required").isTrue
    isNullable := Schema.isNullable members || schema.isNullable
    deprecated := (members.get "deprecated").isTrue
    default }

/-- The parameter that an entry of a parameter list stands for, unless it is left out. -/
def ofEntry (document entry : Value) : Outcome (Option Parameter) := do
  let members ← (← Document.dereference document entry).members
  -- The version of the interface is set once for the client and not passed to each call.
  if members.get "name" == .text "api-version" then return none
  match Location.ofValue? (members.get "in") with
  | some location => return some (← ofMembers document members location)
  | none => return none

/-- The parameters of a list, those left out that are sent to an unknown location. -/
def ofList (document list : Value) : Outcome (List Parameter) := do
  let resolved ← (← list.elements).mapM (ofEntry document)
  return resolved.filterMap id

/-- Whether two parameters are the same one on the wire. -/
def sameWire (p q : Parameter) : Bool :=
  p.prop == q.prop && p.location == q.location

/-- The parameters of a path and an operation; the operation's own replace those of the path. -/
def merge (ofPath own : List Parameter) : List Parameter :=
  -- What is left of the path comes first, each with a model of its own.
  (ofPath.filter fun p => !own.any fun q => sameWire p q).map (fun p => { p with schema := p.schema.copy }) ++ own

/-- The parameter that a request body is passed as. -/
def ofBody (body : Value) : Outcome Parameter := do
  let members ← body.members
  -- The document can name the body, which has no name on the wire.
  let name := (members.get? "x-body-name").getD (.text "requestBody")
  let bare : Parameter := {
    name
    prop := name
    location := .body
    description := (members.get "description").orNull
    isRequired := (members.get "required").isTrue
    isNullable := (members.get "nullable").isTrue }
  match ← Content.chosen? ((members.get "content").orElse (.map [])) with
  | none => return bare
  | some (mediaType, schema) =>
    let model ← Schema.resolve (.text "") schema
    let typed := { bare with
      schema := model
      isNullable := bare.isNullable || model.isNullable
      mediaType := .text mediaType }
    -- A form is passed as a whole, under a name of its own.
    if Content.formMediaTypes.contains (Content.bareMediaType mediaType) then
      return { typed with name := .text "formData", prop := .text "formData", location := .formData }
    else return typed

end TypedClient.Parameter
