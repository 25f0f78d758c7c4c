import TypedClient.Name.Identifier
import TypedClient.Text.Percent

/-! Type tokens of schemas, and the TypeScript types that they stand for. -/

namespace TypedClient

/-- A type as text: what it is, its head, its argument if it is generic, and the names it needs. -/
structure TypeUse where
  text : String := "unknown"
  base : String := "unknown"
  template : Option String := none
  imports : List String := []
  refs : List String := []
  deriving DecidableEq, Repr, Inhabited

/-- The type a token stands for, and whether null is allowed beside it. -/
structure ResolvedType extends TypeUse where
  isNullable : Bool := false
  deriving DecidableEq, Repr, Inhabited

/-- The TypeScript types of the primitive tokens. -/
def primitiveTypes : List (String × String) :=
  [("any", "unknown"), ("array", "unknown[]"), ("boolean", "boolean"), ("byte", "number"),
   ("char", "string"), ("date", "string"), ("date-time", "string"), ("double", "number"),
   ("file", "binary"), ("float", "number"), ("int", "number"), ("integer", "number"),
   ("long", "number"), ("null", "null"), ("number", "number"), ("object", "unknown"),
   ("password", "string"), ("short", "number"), ("string", "string"), ("void", "void")]

/-- The TypeScript type of a primitive token; the binary format stands above every token. -/
def mappedType? (token : String) (format : Value) : Option String :=
  if format == .text "binary" then some "binary" else primitiveTypes.lookup token

/-- The places of a document that a reference may point into. -/
def componentPlaces : List String :=
  ["#/definitions/", "#/parameters/", "#/responses/", "#/securityDefinitions/",
   "#/components/schemas/", "#/components/responses/", "#/components/parameters/",
   "#/components/examples/", "#/components/requestBodies/", "#/components/headers/",
   "#/components/securitySchemes/", "#/components/links/", "#/components/callbacks/"]

/-- What follows the first of the places that the text begins with. -/
def afterPlace? (places : List String) (cs : List Char) : Option (List Char) :=
  places.findSome? fun place => Text.afterHead? place.toList cs

/-- The name inside a reference; any other text with a number sign is refused. -/
def stripNamespace (value : String) : Outcome String :=
  let trimmed := Text.trim value.toList
  match afterPlace? componentPlaces trimmed with
  | some name => .ok (String.ofList name)
  | none =>
    if trimmed.contains '#' then .error (.unsupportedReference (String.ofList trimmed))
    else .ok (String.ofList trimmed)

/-- The head and the argument of a generic name such as `Page[Item]`, which is one line. -/
def genericParts? (cs : List Char) : Option (List Char × List Char) :=
  -- A line feed at the very end is not seen.
  let line := if cs.getLast? == some '\n' then cs.dropLast else cs
  if line.contains '\n' then none
  else
    match line.span (· != '[') with
    | (head, _ :: rest) => if rest.getLast? == some ']' then some (head, rest.dropLast) else none
    | _ => none

namespace TypeUse

/-- The type with the given text and nothing to import. -/
def plain (text : String) : TypeUse :=
  { text, base := text }

/-- The type of the given name, which has to be imported. -/
def named (name : String) : TypeUse :=
  { text := name, base := name, imports := [name] }

/-- The type of a part of a generic name: a primitive one, or one to import. -/
def ofPart (cs : List Char) : TypeUse :=
  let name := sanitizeIdentifier (String.ofList cs)
  match primitiveTypes.lookup name with
  | some primitive => plain primitive
  | none => named (escapeReserved name)

/-- The type of a generic name; an array of something is written with brackets. -/
def generic (head argument : TypeUse) : TypeUse :=
  if head.text == "unknown[]" then
    { text := argument.text ++ "[]", base := argument.text, imports := argument.imports }
  else
    { text := head.text ++ "<" ++ argument.text ++ ">"
      base := head.text
      template := some argument.text
      imports := head.imports ++ argument.imports }

/-- The type with the token recorded as a reference if it is one. -/
def referring (token : String) (type : TypeUse) : TypeUse :=
  if token.toList.head? == some '#' then { type with refs := [token] } else type

/-- The type that a name stands for, or the unknown type if the name is empty. -/
def ofName (token : String) (name : List Char) : TypeUse :=
  match genericParts? name with
  | some (head, argument) => (generic (ofPart head) (ofPart argument)).referring token
  | none =>
    if name.isEmpty then {}
    else (named (escapeReserved (sanitizeIdentifier (String.ofList name)))).referring token

/-- The type that a nonempty text token stands for. -/
def ofText (token : String) (format : Value) : Outcome TypeUse :=
  match mappedType? token format with
  | some primitive => .ok (plain primitive)
  | none => return ofName token (Text.percentDecode (← stripNamespace token).toList)

/-- The type that a token stands for; an absent or empty token leaves the type unknown. -/
def ofToken (token format : Value) : Outcome TypeUse :=
  if !token.truthy then .ok {}
  else if format == .text "binary" then .ok (plain "binary")
  else
    match token with
    | .scalar _ => do ofText (← token.asText) format
    -- Only a scalar can be looked for among the names of types.
    | _ => misfit .wrongKind

end TypeUse

namespace ResolvedType

/-- The union of resolved types; a single type stays what it is. -/
def union (isNullable : Bool) : List ResolvedType → ResolvedType
  | [] => { text := "null", base := "null", isNullable }
  | [type] => { type with isNullable := type.isNullable || isNullable }
  | types =>
    let joined := " | ".intercalate (types.map (·.text))
    { text := joined
      base := joined
      imports := types.flatMap (·.imports)
      refs := types.flatMap (·.refs)
      isNullable }

mutual

/-- The type that a token stands for; a list of tokens stands for the union of its members. -/
def ofValue (format : Value) : Value → Outcome ResolvedType
  | .list members => do
    let types ← ofMembers format members
    return union ((Value.text "null").isIn members) types
  | .pair first second => do
    let earlier ← if first.same (.text "null") then pure [] else (ofValue format first).map ([·])
    let later ← if second.same (.text "null") then pure [] else (ofValue format second).map ([·])
    return union ((Value.text "null").isIn [first, second]) (earlier ++ later)
  | other => return { toTypeUse := ← TypeUse.ofToken other format }

/-- The types of the members of a list of tokens, those that only allow null left out. -/
def ofMembers (format : Value) : List Value → Outcome (List ResolvedType)
  | [] => .ok []
  | v :: rest =>
    if v.same (.text "null") then ofMembers format rest
    else return (← ofValue format v) :: (← ofMembers format rest)

end

end ResolvedType

/-- The type that a token with an optional format stands for. -/
def resolveType (token : Value) (format : Value := .null) : Outcome ResolvedType :=
  ResolvedType.ofValue format token

end TypedClient
