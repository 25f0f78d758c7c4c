import TypedClient.Name.CamelCase
import TypedClient.Name.EnumMember
import TypedClient.Schema.EnumValues

/-! Resolving a schema into a model; references are recorded by name and never followed. -/

namespace TypedClient.Schema

/-- A way to resolve the schemas inside a schema, each under a name. -/
abbrev Resolver := Value → Value → Outcome Model

/-- The key under which an object type says what its further members are. -/
def indexSignature : String := "[key: string]"

/-- Whether the members of a schema allow null: by a flag, or by a type list that has it. -/
def isNullable (members : Members) : Bool :=
  (members.get "nullable").isTrue || (members.get "x-nullable").isTrue ||
    match members.get "type" with
    | .list types => (Value.text "null").isIn types
    | _ => false

/-- What the members of a schema say about its model, whatever its kind. -/
def described (name : Value) (members : Members) : Model :=
  { variant := .generic
    name
    description := (members.get "description").orNull
    deprecated := (members.get "deprecated").isTrue
    isReadOnly := (members.get "readOnly").isTrue
    isNullable := isNullable members
    format := members.get "format"
    default := members.get "default" }

/-- The model of a reference. -/
def reference (ref : Value) (common : Model) : Outcome Model :=
  return { common with variant := .reference, type := (← resolveType ref).toTypeUse }

/-- The model of an array with the given items. -/
def array (resolve : Resolver) (items : Value) (common : Model) : Outcome Model := do
  -- A reference is not followed, so only its name is known of the items.
  if ← items.mentions "$ref" then
    return { common with variant := .array, type := (← resolveType (← items.require "$ref")).toTypeUse }
  else
    -- The list takes over the type of its items, and remembers that it is one by its variant.
    let link ← resolve (.text "") items
    return { common with variant := .array, type := link.type, link := some link }

/-- Whether an alternative of a composition does nothing but allow null. -/
def isNullBranch (branch : Value) : Outcome Bool := do
  -- What a reference stands for is not looked up.
  if ← branch.mentions "$ref" then return false
  let type ← branch.get "type"
  return type == .text "null" || type == .list [.text "null"]

/-- Whether an alternative adds nothing to the type, as an empty schema or a bare object does. -/
def isEmptyBranch (model : Model) (branch : Value) : Outcome Bool :=
  match model.variant with
  | .generic => return model.type.text == "unknown"
  | .dictionary => return !(← branch.get "additionalProperties").truthy
  | _ => return false

/-- The models of the alternatives that add to the type, and whether one of the others allows null. -/
def branches (resolve : Resolver) : List Value → Outcome (List Model × Bool)
  | [] => .ok ([], false)
  | branch :: rest => do
    if ← isNullBranch branch then
      -- The alternative is left out of the union, and allows null beside it instead.
      let (models, _) ← branches resolve rest
      return (models, true)
    else
      let model ← resolve (.text "") branch
      let isEmpty ← isEmptyBranch model branch
      let (models, hasNull) ← branches resolve rest
      return (if isEmpty then models else model :: models, hasNull)

/-- The name of the enum that is the `count`-th one among the alternatives of a named schema. -/
def branchEnumName (name : Value) (count : Nat) : Value :=
  .text (name.display ++ "Enum" ++ if count == 1 then "" else toString count)

/-- The enums that alternatives bring with them, where `count` enums among them came before. -/
def branchEnums (name : Value) (count : Nat) : List Model → List Model
  | [] => []
  | model :: rest =>
    -- An alternative that is an enum itself is declared under a name of its own.
    if model.isEnum && name.truthy then
      Model.copies model.enums ++ { model.copy with name := branchEnumName name (count + 1) }
        :: branchEnums name (count + 1) rest
    else Model.copies model.enums ++ branchEnums name count rest

/-- The enums that a property brings with it; one that is an enum itself is named after its owner. -/
def propertyEnums (owner : Value) (property : Model) : Outcome (List Model) := do
  if property.isEnum && owner.truthy then
    let own := pascalCase (← property.name.asText)
    return Model.copies property.enums ++ [{ property.copy with name := .text (owner.display ++ own) }]
  else return Model.copies property.enums

/-- The model with properties added to it, what they import and the enums they bring included. -/
def withProperties (model : Model) (owner : Value) (properties : List Model) : Outcome Model := do
  let enums ← properties.mapM (propertyEnums owner)
  return {
    model.importing (properties.flatMap Model.imports) (properties.flatMap Model.refs) with
    properties := model.properties ++ properties
    enums := model.enums ++ enums.flatten }

/-- The model of a property. -/
def property (resolve : Resolver) (required : List Value) (key : Scalar) (schema : Value) :
    Outcome Model := do
  let model ←
    -- A reference has nothing but its name, and what is written beside it is looked at below.
    if ← schema.mentions "$ref" then reference (← schema.require "$ref") .unknown
    else resolve (.scalar key) schema
  let members ← schema.members
  return { model with
    name := .scalar key
    isRequired := (Value.scalar key).isIn required
    isReadOnly := (members.get "readOnly").isTrue
    isNullable := model.isNullable || isNullable members
    description := (members.get "description").orNull
    deprecated := (members.get "deprecated").isTrue }

/-- The models of the properties that the members of a schema declare, in their order. -/
def properties (resolve : Resolver) (members : Members) : Outcome (List Model) := do
  let required ← ((members.get "required").orElse (.list [])).asKeys
  let declared ← ((members.get "properties").orElse (.map [])).members
  declared.mapM fun entry => property resolve required entry.1 entry.2

/-- An alternative together with the properties that all alternatives share. -/
def sharing (shared alternative : Model) : Model :=
  { variant := .composition .allOf
    isRequired := true
    properties := [alternative, shared.copy]
    type := {
      imports := alternative.imports ++ shared.imports
      refs := alternative.refs ++ shared.refs } }

/-- The model of a composition of the given alternatives, before shared properties are added. -/
def composedOf (kind : Composition) (models : List Model) (hasNull : Bool) (common : Model) : Model :=
  { common.importing (models.flatMap Model.imports) (models.flatMap Model.refs) with
    variant := .composition kind
    isNullable := common.isNullable || hasNull
    properties := models
    enums := branchEnums common.name 0 models }

/-- A composition whose properties beside the alternatives are part of each of them. -/
def withShared (kind : Composition) (model shared : Model) : Model :=
  { model.importing shared.imports shared.refs with
    enums := model.enums ++ Model.copies shared.enums
    properties :=
      -- An intersection has one more part, and in a union each alternative has it.
      if kind = .allOf then model.properties ++ [shared]
      else model.properties.map (sharing shared) }

/-- The model of a composition. -/
def composition (resolve : Resolver) (kind : Composition) (alternatives : Value)
    (members : Members) (common : Model) : Outcome Model := do
  let (models, hasNull) ← branches resolve (← alternatives.elements)
  let model := composedOf kind models hasNull common
  if (members.get "properties").truthy then
    let bare : Model := { variant := .interface, name := .text "properties", isRequired := true }
    let shared ← withProperties bare model.name (← properties resolve members)
    return withShared kind model shared
  else return model

/-- The model of the further members of an object, or of anything if the schema does not say. -/
def additional (resolve : Resolver) (members : Members) : Outcome Model :=
  match members.get "additionalProperties" with
  -- An empty schema allows anything, and so does a flag.
  | .map [] => return .unknown
  | .map (first :: rest) =>
    match Members.get? (first :: rest) "$ref" with
    | some ref => reference ref .unknown
    | none => resolve (.text "") (.map (first :: rest))
  | _ => return .unknown

/-- The model of an object of which only the type of its values is known. -/
def dictionary (resolve : Resolver) (members : Members) (common : Model) : Outcome Model := do
  let link ← additional resolve members
  return { common with variant := .dictionary, type := link.type, link := some link }

/-- The model of an object with declared properties. -/
def interface (resolve : Resolver) (members : Members) (common : Model) : Outcome Model := do
  let bare := { common with variant := .interface }
  let model ← withProperties bare common.name (← properties resolve members)
  if (members.get "additionalProperties").truthy then
    -- The further members are one property, whose name is the index signature.
    let index := { ← additional resolve members with name := .text indexSignature }
    return { model.importing index.imports index.refs with properties := model.properties ++ [index] }
  else return model

/-- The model of a schema that admits a single value. -/
def constant (value : Value) (common : Model) : Model :=
  { common with variant := .constant value, type := .plain (enumLiteral false value) }

/-- The model of a schema of which only a type token is known. -/
def token (type format : Value) (common : Model) : Outcome Model := do
  let type ← resolveType type format
  return { common with
    type := type.toTypeUse
    isNullable := common.isNullable || type.isNullable }

/-- The keywords that compose a schema of others, and how each of them does. -/
def compositions : List (String × Composition) :=
  [("allOf", .allOf), ("anyOf", .anyOf), ("oneOf", .oneOf)]

/-- The first composing keyword that has alternatives, and what they are. -/
def composed? (members : Members) : Option (Composition × Value) :=
  -- The keywords are tried in a fixed order, whatever their order in the schema is.
  compositions.findSome? fun (keyword, kind) =>
    let alternatives := members.get keyword
    if alternatives.truthy then some (kind, alternatives) else none

/-- Whether a schema is one of objects. -/
def isObject (members : Members) : Bool :=
  members.get "type" == .text "object" || members.has "properties"
    || members.has "additionalProperties"

/-- The model of a schema that is no reference and no enum. -/
def structural (resolve : Resolver) (members : Members) (common : Model) : Outcome Model :=
  if members.get "type" == .text "array" && (members.get "items").truthy then
    array resolve (members.get "items") common
  else
    match composed? members with
    | some (kind, alternatives) => composition resolve kind alternatives members common
    | none =>
      -- What is neither a list nor a composition is told by its type, or by what it declares.
      if isObject members then
        if (members.get "properties").truthy then interface resolve members common
        else dictionary resolve members common
      else
        match members.get? "const" with
        | some value => return constant value common
        | none =>
          match members.get? "type" with
          | some type => token type (members.get "format") common
          | none => return common

/-- The model of a schema with the given members. -/
def ofMembers (resolve : Resolver) (name : Value) (members : Members) : Outcome Model :=
  let common := described name members
  match members.get? "$ref" with
  | some ref => reference ref common
  | none => do
    -- An enum of truth values is no enum of its own.
    let enum ← if members.get "type" == .text "boolean" then pure [] else enumValues members
    if enum.isEmpty then structural resolve members common
    else
      let hasNull := match members.get "enum" with
        | .list values => Value.null.isIn values
        | _ => false
      return { common with
        variant := .enumeration
        type := .plain "string"
        enum
        isNullable := common.isNullable || hasNull }

/-- Resolves a schema under a name. -/
def resolve (name schema : Value) : Outcome Model := do
  let members ← schema.members
  -- Whatever is resolved on the way is a smaller part of the schema.
  ofMembers (fun name part =>
    if part.size < schema.size then resolve name part else misfit .wrongKind) name members
termination_by schema.size

end TypedClient.Schema
