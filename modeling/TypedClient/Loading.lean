import TypedClient.Config
import TypedClient.Files.Path
import TypedClient.Json.Read
import TypedClient.Yaml.Read

/-! Documents and options as files hold them. -/

namespace TypedClient

namespace Text

/-- The text with a line feed for every line break of another system. -/
def withLineFeeds : List Char → List Char
  | [] => []
  | '\r' :: '\n' :: rest => '\n' :: withLineFeeds rest
  | c :: rest => (if c == '\r' then '\n' else c) :: withLineFeeds rest

/-- The text that the bytes of a file hold. -/
def ofBytes (bytes : ByteArray) : Outcome String :=
  match String.fromUTF8? bytes with
  | some s => .ok s
  | none => .error .invalidUtf8

end Text

namespace Document

/-- The value of the text of a file, which is read by the kind that its path tells. -/
def valueOfText (path : Path) (text : String) : Outcome Value :=
  let lines := Text.withLineFeeds text.toList
  if path.isJson then
    match Json.read lines with
    | .ok value => .ok value
    | .error (.malformed cause place) => .error (.malformedJson path.text cause place)
    | .error (.impossible fault) => misfit fault
  else
    match Yaml.read lines with
    | .ok value => .ok value
    | .error (.malformed level) => .error (.malformedYaml path.text level)
    | .error (.impossible fault) => misfit fault

/-- The document that the text of a file holds, which has to be a map. -/
def ofText (path : Path) (text : String) : Outcome Value := do
  match ← valueOfText path text with
  | .map members => return .map members
  | _ => .error (.notAnObject path.text)

end Document

namespace Config

/-- The names among keys, in order; any other key is of no kind that an option can be. -/
def unknownNames (keys : List Scalar) : Outcome (List String) := do
  let names ← keys.mapM fun
    | .text name => .ok name
    | _ => misfit .wrongKind
  return names.mergeSort fun a b => a ≤ b

/-- The options of a map, all of which have to exist. -/
def ofMembers (path : Path) (members : Members) : Outcome Config := do
  let unknown := (members.map Prod.fst).filter fun key => !isOption key
  if unknown.isEmpty then ofOptions members
  else .error (.unknownOptions path.text (← unknownNames unknown))

/-- The configuration that the text of a file holds; nothing in it leaves all defaults. -/
def ofText (path : Path) (text : String) : Outcome Config :=
  match Yaml.read (Text.withLineFeeds text.toList) with
  | .ok value =>
    if !value.truthy then ofOptions []
    else
      match value with
      | .map members => ofMembers path members
      | _ => .error (.configNotAMap path.text)
  | .error (.malformed level) => .error (.malformedConfig level)
  | .error (.impossible fault) => misfit fault

end Config

end TypedClient
