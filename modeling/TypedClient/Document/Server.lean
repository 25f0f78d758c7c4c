import TypedClient.Value.Access

/-! The address at which the described service is found. -/

namespace TypedClient.Document

/-- The text without the slashes at its end. -/
def withoutTrailingSlashes (s : String) : String :=
  String.ofList (s.toList.reverse.dropWhile (· == '/')).reverse

/-- The value under a text key of a map, with a default for an absent one. -/
def getOr (v : Value) (key : String) (default : Value) : Outcome Value :=
  return ((← v.members).get? key).getD default

/-- The address with the placeholder of each variable replaced by the variable's default. -/
def substituteVariables (url : Value) : Members → Outcome Value
  | [] => .ok url
  | (name, definition) :: rest => do
    let default ← getOr definition "default" (.text "")
    let text ← url.asEditable
    let placeholder := '\x7b' :: name.display.toList ++ ['\x7d']
    let replaced := Text.replaceAll placeholder default.display.toList text.toList
    substituteVariables (.text (String.ofList replaced)) rest

/-- The address of the first server, or the one made of scheme, host and base path. -/
def server (document : Value) : Outcome String := do
  if ← document.mentions "swagger" then
    let schemes := (← document.get "schemes").orElse (.list [.text "http"])
    let host ← getOr document "host" (.text "")
    let basePath ← getOr document "basePath" (.text "")
    if host.truthy then
      let scheme ← schemes.part (.int 0)
      return withoutTrailingSlashes (scheme.display ++ "://" ++ host.display ++ basePath.display)
    else return withoutTrailingSlashes (← basePath.asText)
  else
    let servers := (← document.get "servers").orElse (.list [])
    if !servers.truthy then return ""
    let first ← servers.part (.int 0)
    let url ← getOr first "url" (.text "")
    let placeholders ← ((← first.get "variables").orElse (.map [])).members
    return withoutTrailingSlashes (← (← substituteVariables url placeholders).asText)

end TypedClient.Document
