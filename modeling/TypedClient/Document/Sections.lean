import TypedClient.Value.Access

/-! The top-level sections of a document; a section that is absent or empty counts as an empty map. -/

namespace TypedClient.Document

/-- The value under a key of a map, an empty map standing for an absent or empty one. -/
def mapUnder (parent : Value) (key : String) : Outcome Value :=
  return (← parent.get key).orElse (.map [])

/-- The paths with their operations. -/
def paths (document : Value) : Outcome Value :=
  mapUnder document "paths"

/-- The named schemas, whose place depends on the version. -/
def schemas (document : Value) : Outcome Value := do
  if ← document.mentions "swagger" then mapUnder document "definitions"
  else mapUnder (← mapUnder document "components") "schemas"

/-- The named parameters of a version 3 document. -/
def componentParameters (document : Value) : Outcome Value := do
  mapUnder (← mapUnder document "components") "parameters"

/-- The version of the described service as a text, empty if there is none. -/
def serviceVersion (document : Value) : Outcome String := do
  let info ← (← mapUnder document "info").members
  return ((info.get? "version").getD (.text "")).display

end TypedClient.Document
