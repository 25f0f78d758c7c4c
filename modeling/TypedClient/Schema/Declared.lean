import TypedClient.Document.Pointer
import TypedClient.Document.Sections
import TypedClient.Schema.Resolve

/-! The models of the schemas that a document declares by name. -/

namespace TypedClient.Schema

/-- The model of a schema, with the default that holds if the schema gives none. -/
def model (schema : Value) (isDefinition : Bool) (name default : Value) : Outcome Model := do
  let model ← resolve name schema
  let members ← schema.members
  return { model with
    isDefinition
    default := if members.has "default" then model.default else default }

/-- The model of a schema declared under a name. -/
def declared (name : String) (schema : Value) : Outcome Model :=
  model schema true (.text name) .null

/-- The model of a schema in the schema section, under the name that references to it use. -/
def schemaModel (key : Scalar) (schema : Value) : Outcome Model := do
  let type ← resolveType (.scalar key)
  declared type.base schema

/-- The model of a named parameter that has a schema. -/
def parameterModel (document : Value) (key : Scalar) (parameter : Value) : Outcome (Option Model) := do
  let members ← (← Document.dereference document parameter).members
  let schema := members.get "schema"
  if !schema.truthy then return none
  let type ← resolveType (.text ("Parameter" ++ pascalCase (← (Value.scalar key).asText)))
  let model ← declared type.base schema
  return some { model with description := (members.get "description").orElse model.description }

/-- The models of all named schemas and then of all named parameters, in their order. -/
def models (document : Value) : Outcome (List Model) := do
  let schemas ← (← Document.schemas document).members
  let ofSchemas ← schemas.mapM fun entry => schemaModel entry.1 entry.2
  let parameters ← (← Document.componentParameters document).members
  let ofParameters ← parameters.mapM fun entry => parameterModel document entry.1 entry.2
  return ofSchemas ++ ofParameters.filterMap id

end TypedClient.Schema
