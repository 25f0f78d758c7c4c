import TypedClient.Document.Pointer
import TypedClient.Text.Blank

/-! Choosing one of the media types that a body or response is described for. -/

namespace TypedClient.Content

/-- The media types that are preferred over all others. -/
def basicMediaTypes : List String :=
  ["application/json-patch+json", "application/json", "application/x-www-form-urlencoded",
   "text/json", "text/plain", "multipart/form-data", "multipart/mixed", "multipart/related",
   "multipart/batch"]

/-- The media types of forms. -/
def formMediaTypes : List String :=
  ["application/x-www-form-urlencoded", "multipart/form-data"]

/-- A media type without its parameters. -/
def bareMediaType (mediaType : String) : String :=
  String.ofList (Text.trim (mediaType.toList.takeWhile (· != ';')))

/-- The schema under a media type, null if there is none. -/
def schemaUnder (content mediaType : Value) : Outcome Value := do
  ((← content.part mediaType).orElse (.map [])).get "schema"

/-- The media types that have a schema, each with it. -/
def withSchema (content : Value) : List Value → Outcome (List (Value × Value))
  | [] => .ok []
  | mediaType :: rest => do
    let schema ← schemaUnder content mediaType
    let others ← withSchema content rest
    return if schema.truthy then (mediaType, schema) :: others else others

/-- The first preferred media type; every one up to it has to be a text. -/
def preferred? : List (Value × Value) → Outcome (Option (String × Value))
  | [] => .ok none
  | (mediaType, schema) :: rest => do
    let name ← mediaType.asText
    if basicMediaTypes.contains (bareMediaType name) then return some (name, schema)
    else preferred? rest

/-- The media type to generate for and its schema: a preferred one, or else the first. -/
def chosen? (content : Value) : Outcome (Option (String × Value)) := do
  let candidates ← withSchema content (← content.elements)
  match ← preferred? candidates with
  | some chosen => return some chosen
  | none =>
    match candidates with
    | [] => return none
    | (mediaType, schema) :: _ => return some (← mediaType.asText, schema)

/-- A schema, or what it refers to if it points into one of the given places. -/
def followInto (places : List String) (document schema : Value) : Outcome Value := do
  let ref ← (((← schema.members).get? "$ref").getD (.text "")).asText
  if places.any fun place => place.toList.isPrefixOf ref.toList then
    Document.dereference document schema
  else return schema

end TypedClient.Content
