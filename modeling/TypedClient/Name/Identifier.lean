import TypedClient.Text.Blank
import TypedClient.Text.Half
import TypedClient.Text.Identifier
import TypedClient.Text.Search
import TypedClient.Value.Access

/-! Making TypeScript identifiers out of arbitrary names. -/

namespace TypedClient

namespace Name

/-- The words that TypeScript keeps for itself. -/
def reservedWords : List String :=
  ["arguments", "break", "case", "catch", "class", "const", "continue", "debugger", "default",
   "delete", "do", "else", "enum", "eval", "export", "extends", "false", "finally", "for",
   "function", "if", "implements", "import", "in", "instanceof", "interface", "let", "new", "null",
   "package", "private", "protected", "public", "return", "static", "super", "switch", "this",
   "throw", "true", "try", "typeof", "var", "void", "while", "with", "yield"]

/-- The name that stands for one without any usable character. -/
def placeholder : List Char :=
  "empty_string".toList

/-- The text with every code that no identifier may hold replaced. -/
def legalized (replacement : Char) (cs : List Char) : List Char :=
  -- Half of a pair counts as the null character, which no identifier may hold either.
  (Text.codes cs).map fun code =>
    if Text.isIdentifierPart (Char.ofNat code) then Char.ofNat code else replacement

/-- The text with an underscore in front unless an identifier may start as it does. -/
def startable : List Char → List Char
  | [] => []
  | c :: rest => if Text.isIdentifierStart c then c :: rest else '_' :: c :: rest

/-- The text with every run of underscores made a single one. -/
def collapsed : List Char → List Char
  | [] => []
  | c :: rest =>
    if c == '_' && rest.head? == some '_' then collapsed rest else c :: collapsed rest

/-- The identifier made from a name. -/
def identifier (cs : List Char) : List Char :=
  let name := collapsed (startable (legalized '_' (Text.trim cs)))
  if name.isEmpty then placeholder else name

/-- The text from its first letter on, with hyphens for what may not stand in an identifier. -/
def hyphenated (cs : List Char) : List Char :=
  -- An underscore counts as a letter everywhere but at the front.
  let fromLetter := cs.dropWhile fun c => !(c != '_' && Text.isLetterLike c)
  (legalized '-' fromLetter).map fun c => if c == '$' then '-' else c

/-- Whether a text is a Unicode identifier as a whole. -/
def isWord : List Char → Bool
  | [] => false
  | c :: rest => Text.isLetterLike c && rest.all Text.isWordLike

/-- Drops the items of a list until one is a word other than the underscore; all must be texts till then. -/
def fromWord : List Value → Outcome (List Value)
  | [] => .ok []
  | .text s :: rest =>
    if s != "_" && isWord s.toList then .ok (.text s :: rest) else fromWord rest
  | _ :: _ => misfit .notSupported

/-- An item of a list in a hyphenated name: a word part as it is, which must be a text, else a hyphen. -/
def hyphenatedItem (v : Value) : Outcome (List Char) :=
  let written := v.display.toList
  if written == ['$'] || written == ['\u200c'] || written == ['\u200d']
      || written.all Text.isWordLike then
    match v with
    | .text s => .ok s.toList
    | _ => misfit .wrongKind
  else .ok ['-']

/-- The hyphenated form of a value: a text, or a list of texts read as one. -/
def hyphenatedValue : Value → Outcome (List Char)
  | .text s => .ok (hyphenated s.toList)
  | .list items => do
    let parts ← (← fromWord items).mapM hyphenatedItem
    return parts.flatten.map fun c => if c == '$' then '-' else c
  | .pair key value => do
    let parts ← (← fromWord [key, value]).mapM hyphenatedItem
    return parts.flatten.map fun c => if c == '$' then '-' else c
  | .map members => misfit (if members.isEmpty then .wrongKind else .missingKey)
  -- Bytes are numbers, and a number is no letter.
  | .scalar (.bytes content) => if content.isEmpty then .ok [] else misfit .notSupported
  | _ => misfit .wrongKind

end Name

/-- The TypeScript identifier made from a name. -/
def sanitizeIdentifier (raw : String) : String :=
  String.ofList (Name.identifier raw.toList)

/-- The name from its first letter on, with hyphens between its words. -/
def sanitizeNamespace (raw : String) : String :=
  String.ofList (Name.hyphenated raw.toList)

/-- The hyphenated name of a parameter, in which a pair of brackets reads as the word for an array. -/
def sanitizeParameterName (raw : String) : String :=
  String.ofList (Name.hyphenated (Text.replaceAll ['[', ']'] "Array".toList raw.toList))

/-- The name, with an underscore after it if it is a reserved word. -/
def escapeReserved (name : String) : String :=
  if Name.reservedWords.contains name then name ++ "_" else name

end TypedClient
