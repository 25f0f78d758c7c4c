import TypedClient.Json.Write
import TypedClient.Name.EnumMember
import TypedClient.Name.Property
import TypedClient.Text.Blank
import TypedClient.TypeScript.Syntax

/-! The text of types, values, expressions and comments inside a TypeScript file. -/

namespace TypedClient

/-- The blanks at the start of a line at a depth: four for each level. -/
def indent (level : Nat) : String :=
  String.ofList (List.replicate (4 * level) ' ')

/-- The lines joined by line feeds. -/
def joinLines (lines : List String) : String :=
  "\n".intercalate lines

/-- A text between braces. -/
def braced (inner : String) : String :=
  "\x7b" ++ inner ++ "\x7d"

/-- The text without blanks at its end. -/
def trimEndText (s : String) : String :=
  String.ofList (Text.trimEnd s.toList)

/-- The comment lines that values stand for: those that count as true, as texts. -/
def commentLines (lines : List Value) : List String :=
  (lines.filter Value.truthy).map Value.display

/-- A documentation comment with a line feed after it, or nothing if no line says anything. -/
def printComment (lines : List String) (level : Nat) : String :=
  let body := (lines.filter (· != "")).flatMap fun line =>
    (Text.splitOn '\n' (escapeComment line).toList).map String.ofList
  if body.isEmpty then ""
  else
    let pad := indent level
    let inner := body.map fun text => trimEndText (pad ++ " * " ++ text)
    pad ++ "/**\n" ++ joinLines inner ++ "\n" ++ pad ++ " */\n"

mutual

/-- A value as a literal, whose inner lines stand one level deeper than the given one. -/
def printValue : Value → Nat → Outcome String
  | .map [], _ => .ok (braced "")
  | .map members, level => do
    let lines ← printMembers members (level + 1)
    return braced ("\n" ++ joinLines lines ++ "\n" ++ indent level)
  | .list [], _ => .ok "[]"
  | .list items, level => do
    let lines ← printItems items (level + 1)
    return "[\n" ++ joinLines lines ++ "\n" ++ indent level ++ "]"
  | .text s, _ => .ok (quoteText "\x27" s)
  | other, _ => Json.write other

/-- The lines of the items of a list. -/
def printItems : List Value → Nat → Outcome (List String)
  | [], _ => .ok []
  | v :: rest, level => do
    let text ← printValue v level
    return (indent level ++ text ++ ",") :: (← printItems rest level)

/-- The lines of the members of a map. -/
def printMembers : Members → Nat → Outcome (List String)
  | [], _ => .ok []
  | (key, v) :: rest, level => do
    let text ← printValue v level
    return (indent level ++ escapeKey key.display ++ ": " ++ text ++ ",") :: (← printMembers rest level)

end

/-- Whether a type has to be put in parentheses before brackets. -/
def TypeExpr.isCompound : TypeExpr → Bool
  | .union types | .intersection types => 1 < types.length
  | _ => false

/-- Whether a type has to be put in parentheses inside an intersection. -/
def TypeExpr.isAlternative : TypeExpr → Bool
  | .union types => 1 < types.length
  | _ => false

/-- A text in parentheses if the flag says so. -/
def parenthesized (flag : Bool) (text : String) : String :=
  if flag then "(" ++ text ++ ")" else text

/-- A member's name as a key; a name that begins with a bracket is an index signature. -/
def printKey (name : Value) : Outcome String := do
  let text ← name.asText
  return if text.toList.head? == some '[' then text else escapeKey text

/-- The line of a member, its doc comment above it. -/
def memberLine (key : String) (isRequired isReadOnly : Bool) (comment : List String) (level : Nat)
    (type : String) : String :=
  printComment comment level ++ indent level ++ (if isReadOnly then "readonly " else "") ++ key
    ++ (if isRequired then "" else "?") ++ ": " ++ type ++ ";"

mutual

/-- A type expression, on a line of the given depth. -/
def printType : TypeExpr → Nat → Outcome String
  | .reference name [], _ => .ok name
  | .reference name args, level => do
    return name ++ "<" ++ ", ".intercalate (← printTypes args level) ++ ">"
  | .raw text, _ => .ok text
  | .literal value, _ => .ok (enumLiteral true value)
  | .array element, level => do
    return parenthesized element.isCompound (← printType element level) ++ "[]"
  | .union types, level => do
    return " | ".intercalate (← printTypes types level)
  | .intersection types, level => do
    return " & ".intercalate (← printParts types level)
  | .indexed object index, level => do
    return (← printType object level) ++ "[" ++ enumLiteral false index ++ "]"
  | .object [], _ => .ok (braced "")
  | .object members, level => do
    let lines ← printMemberLines members (level + 1)
    return braced ("\n" ++ joinLines lines ++ "\n" ++ indent level)
  | .foreign kind, _ => .error (.unprintableType kind)

/-- The texts of type expressions. -/
def printTypes : List TypeExpr → Nat → Outcome (List String)
  | [], _ => .ok []
  | type :: rest, level => do
    let text ← printType type level
    return text :: (← printTypes rest level)

/-- The texts of the parts of an intersection. -/
def printParts : List TypeExpr → Nat → Outcome (List String)
  | [], _ => .ok []
  | type :: rest, level => do
    let text ← printType type level
    return parenthesized type.isAlternative text :: (← printParts rest level)

/-- The lines of the members of an object type. -/
def printMemberLines : List (Member TypeExpr) → Nat → Outcome (List String)
  | [], _ => .ok []
  | ⟨name, type, isRequired, isReadOnly, comment⟩ :: rest, level => do
    let key ← printKey name
    let text ← printType type level
    return memberLine key isRequired isReadOnly comment level text :: (← printMemberLines rest level)

end

/-- The line of a member of an object type. -/
def printMember (member : Member TypeExpr) (level : Nat) : Outcome String := do
  let key ← printKey member.name
  let text ← printType member.type level
  return memberLine key member.isRequired member.isReadOnly member.comment level text

mutual

/-- A value expression, whose inner lines stand one level deeper than the given one. -/
def printExpression : Expression → Nat → Outcome String
  | .identifier name, _ => .ok name
  | .literal value, level => printValue value level
  | .object [], _ => .ok (braced "")
  | .object entries, level => do
    let lines ← printEntries entries (level + 1)
    return braced ("\n" ++ joinLines lines ++ "\n" ++ indent level)
  | .foreign kind, _ => .error (.unprintableExpression kind)

/-- The lines of the entries of an object literal; an identifier under its own name stands alone. -/
def printEntries : List (String × Expression) → Nat → Outcome (List String)
  | [], _ => .ok []
  | (key, value) :: rest, level => do
    let text ← printExpression value level
    let entry := match value with
      | .identifier name => if name == key then key else key ++ ": " ++ text
      | _ => key ++ ": " ++ text
    return (indent level ++ entry ++ ",") :: (← printEntries rest level)

end

/-- The value of a parameter for which none is passed. -/
def printInitializer : Initializer → Outcome String
  | .value v => printValue v 0
  | .expression (.object entries) => printExpression (.object entries) 0
  -- No other expression can be a default.
  | .expression _ => misfit .wrongKind

/-- A parameter of a method or constructor. -/
def printParameter (parameter : FunctionParameter) : Outcome String := do
  let access := if parameter.accessLevel == "" then "" else parameter.accessLevel ++ " "
  let readOnly := if parameter.isReadOnly then "readonly " else ""
  let optional := if parameter.isRequired || parameter.default.isSome then "" else "?"
  let type ← match parameter.type with
    | some type => pure (": " ++ (← printType type 0))
    | none => pure ""
  let default ← match parameter.default with
    | some initializer => pure (" = " ++ (← printInitializer initializer))
    | none => pure ""
  return access ++ readOnly ++ parameter.name.display ++ optional ++ type ++ default

/-- A name in an import or export. -/
def printImportName (item : ImportName) : String :=
  let localName := item.localName.getD ""
  (if item.isTypeOnly then "type " else "") ++ item.name
    ++ if localName == "" then "" else " as " ++ localName

/-- The names of an import or export between braces. -/
def printImportNames (names : List ImportName) : String :=
  braced (" " ++ ", ".intercalate (names.map printImportName) ++ " ")

/-- An import statement. -/
def printImport (item : Import) : String :=
  "import " ++ printImportNames item.names ++ " from '" ++ item.source ++ "';"

end TypedClient
