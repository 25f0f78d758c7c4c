import TypedClient.Text.Digit
import TypedClient.Text.Letter
import TypedClient.Text.Quoted
import TypedClient.Text.Search
import TypedClient.Value.Access

/-! Keys of object types and object literals, and texts that stand inside comments and templates. -/

namespace TypedClient

namespace Name

/-- An ASCII letter, the underscore or the dollar sign. -/
def isPlainStart (c : Char) : Bool :=
  Text.isAsciiUpper c || Text.isAsciiLower c || c == '_' || c == '$'

/-- An ASCII letter or digit, the underscore or the dollar sign. -/
def isPlainPart (c : Char) : Bool :=
  isPlainStart c || ('0' ≤ c && c ≤ '9')

/-- Whether a key is a plain name; a line feed at its very end is not seen. -/
def isPlain (cs : List Char) : Bool :=
  let seen := if cs.getLast? == some '\n' then cs.dropLast else cs
  match seen with
  | [] => false
  | c :: rest => isPlainStart c && rest.all isPlainPart

/-- Whether a key can stand without quotes: a plain name, or digits only. -/
def isBareKey (cs : List Char) : Bool :=
  isPlain cs || (!cs.isEmpty && cs.all Text.isDigit)

end Name

/-- A property key as it stands in TypeScript: in quotes unless it can stand bare. -/
def escapeKey (key : String) : String :=
  if Name.isBareKey key.toList then key else quoteText "\x27" key

/-- The property key for a value, which has to be a text. -/
def escapeKeyValue : Value → Outcome String
  | .text s => .ok (escapeKey s)
  | _ => misfit .wrongKind

/-- The name without the single quotes around it, if it has them on both sides. -/
def unquoteName (name : String) : String :=
  match name.toList with
  | '\x27' :: rest@(_ :: _) =>
    if rest.getLast? == some '\x27' then String.ofList rest.dropLast else name
  | _ => name

/-- A text in which the marks of comments are defused and lines end in a line feed. -/
def escapeComment (s : String) : String :=
  let closed := Text.replaceAll ['*', '/'] ['*'] s.toList
  let opened := Text.replaceAll ['/', '*'] ['*'] closed
  String.ofList (Text.replaceAll ['\r', '\n'] ['\n'] opened)

/-- The comment text for a value, which has to be a text. -/
def escapeCommentValue (v : Value) : Outcome String :=
  return escapeComment (← v.asEditable)

/-- A text that is safe inside a template literal. -/
def escapeTemplate (s : String) : String :=
  let backslashes := Text.replaceAll ['\\'] ['\\', '\\'] s.toList
  let backticks := Text.replaceAll ['\x60'] ['\\', '\x60'] backslashes
  String.ofList (Text.replaceAll ['$', '\x7b'] ['\\', '$', '\x7b'] backticks)

end TypedClient
