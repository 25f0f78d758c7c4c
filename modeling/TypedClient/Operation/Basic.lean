import TypedClient.Schema.Model

/-! Operations of a service: their parameters and responses. -/

namespace TypedClient

/-- Where a parameter is sent. -/
inductive Location
  | path
  | query
  | header
  | cookie
  | formData
  | body
  deriving DecidableEq, Repr

/-- The names of the locations. -/
def Location.names : List (String × Location) :=
  [("path", .path), ("query", .query), ("header", .header), ("cookie", .cookie),
   ("formData", .formData), ("body", .body)]

/-- The location that a value names, if it names one. -/
def Location.ofValue? : Value → Option Location
  | .text s => Location.names.lookup s
  | _ => none

/-- A parameter of an operation. -/
structure Parameter where
  /-- The name in generated code: a text unless a body is given another name. -/
  name : Value
  /-- The name on the wire. -/
  prop : Value
  location : Location
  schema : Model := .unknown
  description : Value := .null
  isRequired : Bool := false
  isNullable : Bool := false
  deprecated : Bool := false
  default : Value := .null
  mediaType : Value := .null
  deriving Repr

/-- Whether a caller has to pass a value: the parameter is required and has no default. -/
def Parameter.needsValue (parameter : Parameter) : Bool :=
  parameter.isRequired && parameter.default matches .null

namespace Parameter

/-- Puts a parameter into a list in front of the first one that may come after it. -/
def insertSorted (parameter : Parameter) : List Parameter → List Parameter
  | [] => [parameter]
  | other :: rest =>
    if parameter.needsValue || !other.needsValue then parameter :: other :: rest
    else other :: insertSorted parameter rest

/-- The parameters sorted by whether they need a value, those that do first; the sort is stable. -/
def sorted (parameters : List Parameter) : List Parameter :=
  parameters.foldr insertSorted []

end Parameter

/-- The parameters of an operation in their places, with what their types import and refer to. -/
structure Places where
  /-- All parameters, in the order in which they were added. -/
  all : List Parameter := []
  path : List Parameter := []
  query : List Parameter := []
  header : List Parameter := []
  cookie : List Parameter := []
  form : List Parameter := []
  body : Option Parameter := none
  imports : List String := []
  refs : List String := []
  deriving Repr

namespace Places

/-- Puts a parameter behind the others at its location, unless it is the body, of which the last one counts. -/
def locate (places : Places) (parameter : Parameter) (isBody : Bool) : Places :=
  if isBody || parameter.location = .body then { places with body := some parameter }
  else
    match parameter.location with
    | .path => { places with path := places.path ++ [parameter] }
    | .query => { places with query := places.query ++ [parameter] }
    | .header => { places with header := places.header ++ [parameter] }
    | .cookie => { places with cookie := places.cookie ++ [parameter] }
    | _ => { places with form := places.form ++ [parameter] }

/-- Adds a parameter to all and to the ones at its location. -/
def add (places : Places) (parameter : Parameter) (isBody : Bool) : Places :=
  { places.locate parameter isBody with
    all := places.all ++ [parameter]
    imports := places.imports ++ parameter.schema.imports
    refs := places.refs ++ parameter.schema.refs }

/-- The parameters at a location; there is one body at most. -/
def located (places : Places) : Location → List Parameter
  | .path => places.path
  | .query => places.query
  | .header => places.header
  | .cookie => places.cookie
  | .formData => places.form
  | .body => places.body.toList

end Places

/-- What a response is for. -/
inductive ResponseCode
  /-- The statuses that no other response is for. -/
  | fallback
  | status (code : Nat)
  /-- A key that is for no status. -/
  | unusable (key : Value)
  deriving Repr

/-- The code as it is written in generated code. -/
def ResponseCode.text : ResponseCode → String
  | fallback => "default"
  | status code => toString code
  | unusable key => key.display

/-- A response of an operation; its content may be the value of a header. -/
structure Response where
  code : ResponseCode
  schema : Model := .unknown
  description : Value := .null
  isHeader : Bool := false
  /-- The name of the header. -/
  name : Value := .text ""
  deriving Repr

namespace Response

/-- Whether the response reports an error and says which. -/
def isError (response : Response) : Bool :=
  match response.code with
  | .status code => 300 ≤ code && response.description.truthy
  -- The fallback may be for an error as well, but it does not say for which.
  | _ => false

/-- Whether the response is one of success, or the one for all other statuses. -/
def isSuccess (response : Response) : Bool :=
  match response.code with
  | .fallback => true
  | .status code => 200 ≤ code && code < 300
  | .unusable _ => false

end Response

/-- Whether two models stand for types with the same text, the types of their items included. -/
def Model.sameType : Model → Model → Bool
  | { type := s, link := some a, .. }, other =>
    s.text == other.type.text && s.base == other.type.base && s.template == other.type.template &&
      match other.link with
      | some b => a.sameType b
      -- A link that only one of the models has makes no difference.
      | none => true
  | { type := s, link := none, .. }, other =>
    s.text == other.type.text && s.base == other.type.base && s.template == other.type.template

namespace Response

/-- The responses that report errors. -/
def errors (responses : List Response) : List Response :=
  responses.filter isError

/-- The success responses, those left out whose type an earlier one has. -/
def results (responses : List Response) : List Response :=
  (responses.filter isSuccess).foldl (fun kept response =>
    if kept.any fun k => k.schema.sameType response.schema then kept else kept ++ [response]) []

/-- The name of the first header among the responses, null if there is none. -/
def header (responses : List Response) : Value :=
  match responses.find? Response.isHeader with
  | some response => response.name
  | none => .null

end Response

/-- An operation of a service under one tag. -/
structure Operation where
  name : String
  service : String
  method : String
  /-- The path on the wire: a text unless the document says otherwise. -/
  path : Value
  id : Value := .null
  summary : Value := .null
  description : Value := .null
  deprecated : Bool := false
  /-- The parameters of the path and of the operation itself, merged. -/
  declared : List Parameter := []
  requestBody : Option Parameter := none
  responses : List Response := []
  deriving Repr

namespace Operation

/-- The places of the parameters: first those of the declared ones are found, and the request body comes last. -/
def places (operation : Operation) : Places :=
  let declared := operation.declared.foldl (fun places parameter => places.add parameter false) {}
  match operation.requestBody with
  | some parameter => declared.add parameter true
  | none => declared

/-- All parameters, those that need a value first. -/
def parameters (operation : Operation) : List Parameter :=
  Parameter.sorted operation.places.all

/-- The parameters at a location. -/
def located (operation : Operation) (location : Location) : List Parameter :=
  operation.places.located location

/-- The parameter that is the body, if there is one. -/
def body (operation : Operation) : Option Parameter :=
  operation.places.body

/-- The success responses. -/
def results (operation : Operation) : List Response :=
  Response.results operation.responses

/-- The error responses. -/
def errors (operation : Operation) : List Response :=
  Response.errors operation.responses

/-- The header that a success response is delivered in, null if there is none. -/
def responseHeader (operation : Operation) : Value :=
  Response.header operation.results

/-- The names that the types of the operation import, those of the success responses after those of parameters. -/
def imports (operation : Operation) : List String :=
  operation.results.foldl (fun names response => names ++ response.schema.imports) operation.places.imports

/-- The references that the types of the operation go back to, in the same order. -/
def refs (operation : Operation) : List String :=
  operation.results.foldl (fun names response => names ++ response.schema.refs) operation.places.refs

end Operation

end TypedClient
