import TypedClient.Value.Access

/-! The version of the OpenAPI standard that a document declares. -/

namespace TypedClient.Document

/-- The major version, 2 for a `swagger` member and 3 for an `openapi` one. -/
def majorVersion (document : Value) : Outcome Nat := do
  if ← document.mentions "swagger" then
    let version ← document.require "swagger"
    if version.display.toList.head? == some '2' then return 2
    else .error (.unsupportedSwagger version)
  else if ← document.mentions "openapi" then
    let version ← document.require "openapi"
    if version.display.toList.head? == some '3' then return 3
    else .error (.unsupportedOpenApi version)
  else .error .versionMissing

end TypedClient.Document
