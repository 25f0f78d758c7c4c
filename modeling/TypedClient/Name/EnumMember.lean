import TypedClient.Name.Identifier
import TypedClient.Text.Case
import TypedClient.Text.Quoted
import TypedClient.Value.Display

/-! The keys and literals of enum members. -/

namespace TypedClient

namespace Name

/-- Sets every upper-case character apart from a lower-case one before it. -/
def splitCases : List Char → List Char
  | a :: b :: rest =>
    if Text.isLower a && Text.isUpper b then a :: '_' :: splitCases (b :: rest)
    else a :: splitCases (b :: rest)
  | cs => cs

/-- The member key for a text, in upper case. -/
def memberKey (cs : List Char) : List Char :=
  let key := splitCases (startable (legalized '_' cs))
  Text.toUpper (if key.isEmpty then placeholder else key)

end Name

/-- The member key for a scalar; a number, with however many digits, is quoted behind an underscore. -/
def Scalar.enumKey : Scalar → String
  | int n => "'_" ++ toString n ++ "'"
  | float x => "'_" ++ x.text ++ "'"
  | bool b => if b then "TRUE" else "FALSE"
  | text s => String.ofList (Name.memberKey s.toList)
  | _ => String.ofList (Name.memberKey [])

/-- The member key for an enum value: the custom name if there is one, else one made from the value. -/
def enumKey (value custom : Value) : Value :=
  if custom.truthy then custom
  else
    match value with
    | .scalar s => .text s.enumKey
    | _ => .text (Scalar.enumKey .null)

/-- A value as a literal; in a union, a text with a single quote takes double quotes. -/
def enumLiteral (union : Bool) : Value → String
  | .text s =>
    if union && s.toList.contains '\x27' then quoteText "\"" s else quoteText "\x27" s
  | .bool b => if b then "true" else "false"
  | .null => "null"
  | other => other.display

/-- The union of the literals of values, each once. -/
def enumUnion (values : List Value) : String :=
  " | ".intercalate (values.map (enumLiteral true)).eraseDups

end TypedClient
