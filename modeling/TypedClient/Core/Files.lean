import TypedClient.Core.Exchange
import TypedClient.Core.Promise
import TypedClient.Core.Request
import TypedClient.Core.Settings

/-! The files of the runtime that every generated client calls. -/

namespace TypedClient.Core

/-- The files of the runtime by name; observables need no promise of their own. -/
def files (client : ClientKind) (server version : Value) : Outcome (List (String × String)) := do
  let settings ← settings client server version
  let promise := if client = .angular then [] else [("CancelablePromise.ts", promise)]
  return [("ApiError.ts", page [failureImports, failure]),
      ("ApiRequestOptions.ts", page [requestOptions]),
      ("ApiResult.ts", page [result])]
    ++ promise
    ++ [("OpenAPI.ts", settings), ("request.ts", request client)]

end TypedClient.Core
