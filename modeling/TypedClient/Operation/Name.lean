import TypedClient.Config
import TypedClient.Name.CamelCase
import TypedClient.Name.Identifier

/-! Names of services, operations and parameters. -/

namespace TypedClient

namespace Name

/-- The segment that stands for the version of the interface in a path. -/
def versionMark : List Char :=
  "\x7bapi-version\x7d".toList

/-- What follows the first slash, if one comes before the end of the line. -/
def afterSlash? : List Char → Option (List Char)
  | [] => none
  | c :: rest => if c == '/' then some rest else if c == '\n' then none else afterSlash? rest

/-- What follows a path segment that holds the version mark, its closing slash included. -/
def afterVersion? : List Char → Option (List Char)
  | [] => none
  | c :: rest =>
    match (Text.afterHead? versionMark (c :: rest)).bind afterSlash? with
    | some remainder => some remainder
    | none => if c == '/' then none else afterVersion? rest

/-- Drops the version segments of a path, once the first `skip` characters are dropped. -/
def withoutVersionFrom : Nat → List Char → List Char
  | _, [] => []
  | skip + 1, _ :: rest => withoutVersionFrom skip rest
  | 0, c :: rest =>
    match afterVersion? (c :: rest) with
    -- What the segment takes of the text beyond its first character is skipped.
    | some remainder => withoutVersionFrom (rest.length - remainder.length) rest
    | none => c :: withoutVersionFrom 0 rest

/-- The path without the segments that hold the version mark. -/
def withoutVersion (url : List Char) : List Char :=
  withoutVersionFrom 0 url

/-- The inside of a pair of braces on one line, given what follows the opening one. -/
def insideBraces? : List Char → Option (List Char)
  | [] => none
  | c :: rest =>
    if c == '\x7d' then some []
    else if c == '\n' then none
    else (insideBraces? rest).map (c :: ·)

/-- Reads a placeholder as the word `by` and its name, once the first `skip` characters are dropped. -/
def spellPlaceholdersFrom : Nat → List Char → List Char
  | _, [] => []
  | skip + 1, _ :: rest => spellPlaceholdersFrom skip rest
  | 0, c :: rest =>
    match if c == '\x7b' then insideBraces? rest else none with
    | some inside => "by-".toList ++ inside ++ spellPlaceholdersFrom (inside.length + 1) rest
    | none => c :: spellPlaceholdersFrom 0 rest

/-- The path with its placeholders read as words. -/
def spellPlaceholders (url : List Char) : List Char :=
  spellPlaceholdersFrom 0 url

/-- The name of an operation made of its method and path. -/
def ofRoute (method url : List Char) : List Char :=
  let words := (spellPlaceholders (withoutVersion url)).map fun c => if c == '/' then '-' else c
  camel false (method ++ '-' :: words)

end Name

/-- The name of the service for a tag. -/
def serviceName (tag : Value) : Outcome String :=
  return String.ofList (Name.camel true (← Name.hyphenatedValue tag))

/-- The name of an operation: its identifier if it has one and it is to be used, else one from its route. -/
def operationName (url : Value) (method : String) (config : Config) (id : Value) : Outcome String :=
  if config.operationId.truthy && id.truthy then
    return String.ofList (Name.camel false (← Name.hyphenatedValue id))
  else
    match url with
    | .text s => return String.ofList (Name.ofRoute method.toList s.toList)
    | _ => misfit .wrongKind

/-- The name of a parameter in generated code. -/
def parameterName (wire : Value) : Outcome String :=
  return escapeReserved (camelCase (sanitizeParameterName (← wire.asEditable)))

end TypedClient
