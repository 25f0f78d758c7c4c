import TypedClient.Name.EnumRegistry
import TypedClient.Operation.Basic

/-! A client: the models, the services and the address that a document describes. -/

namespace TypedClient

/-- Operations that belong together. -/
structure Service where
  name : String
  operations : List Operation := []
  /-- The names that the types of the operations import. -/
  imports : List String := []
  /-- The references that the types of the operations go back to. -/
  refs : List String := []
  deriving Repr

/-- Adds an operation to a service, with what its types import and refer to. -/
def Service.add (service : Service) (operation : Operation) : Service :=
  { service with
    operations := service.operations ++ [operation]
    imports := service.imports ++ operation.imports
    refs := service.refs ++ operation.refs }

/-- Everything that is generated for one document. -/
structure Client where
  models : List Model := []
  services : List Service := []
  enumNames : EnumRegistry := []
  server : Value := .text ""
  version : String := ""
  deriving Repr

/-- The enums that are named for a model: the model itself if it is one, and those inside it. -/
def Model.namedEnums (m : Model) : List Model :=
  (if m.isEnum then [m] else []) ++ m.enums

namespace Client

/-- All enums of the client in the order in which they are named. -/
def enums (client : Client) : List Model :=
  client.models.flatMap Model.namedEnums

/-- All operations of the client. -/
def operations (client : Client) : List Operation :=
  client.services.flatMap (·.operations)

end Client

end TypedClient
