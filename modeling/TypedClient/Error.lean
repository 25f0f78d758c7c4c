import TypedClient.Value.Display

/-! Why a run can fail, and the text that reports each failure. -/

namespace TypedClient

/-- A value that has not the shape an operation needs. -/
inductive Fault
  /-- A member or a text operation was asked of a value that has none. -/
  | notSupported
  /-- The value is of a kind that the operation does not take. -/
  | wrongKind
  /-- A map has no member under the key. -/
  | missingKey
  /-- A text that should denote a number does not. -/
  | notANumber
  /-- A list is too short for the position. -/
  | outOfRange
  /-- A number is too large for its kind. -/
  | tooLarge
  /-- Parts lie too deep inside one another, or inside themselves. -/
  | tooDeep
  /-- A text holds half of a pair of units, which no file can hold. -/
  | notEncodable
  deriving DecidableEq, Repr

/-- What a JSON text lacks or holds in error. -/
inductive JsonFault
  | expectingValue
  | expectingComma
  | expectingColon
  | expectingName
  | extraData
  | unterminatedString
  | controlCharacter
  | badEscape
  | badUnicodeEscape
  | byteOrderMark
  deriving DecidableEq, Repr

/-- The words for a fault of a JSON text. -/
def JsonFault.text : JsonFault → String
  | expectingValue => "Expecting value"
  | expectingComma => "Expecting ',' delimiter"
  | expectingColon => "Expecting ':' delimiter"
  | expectingName => "Expecting property name enclosed in double quotes"
  | extraData => "Extra data"
  | unterminatedString => "Unterminated string starting at"
  | controlCharacter => "Invalid control character at"
  | badEscape => "Invalid \\escape"
  | badUnicodeEscape => "Invalid \\uXXXX escape"
  | byteOrderMark => "Unexpected UTF-8 BOM (decode using utf-8-sig)"

/-- A place in a text: line and column count from one, the offset from zero. -/
structure Place where
  line : Nat
  column : Nat
  offset : Nat
  deriving DecidableEq, Repr

/-- The words for a place in a text. -/
def Place.text (place : Place) : String :=
  "line " ++ toString place.line ++ " column " ++ toString place.column
    ++ " (char " ++ toString place.offset ++ ")"

/-- The level of a YAML text at which it is malformed. -/
inductive YamlLevel
  /-- A character that no YAML text may hold. -/
  | character
  /-- Characters that make up no token. -/
  | token
  /-- Tokens that make up no node. -/
  | node
  /-- An anchor or alias that stands for no node, or for two, or a second document. -/
  | reference
  /-- A node that denotes no value. -/
  | value
  deriving DecidableEq, Repr

/-- The words for a YAML text that is malformed at a level. -/
def YamlLevel.text : YamlLevel → String
  | .character => "a character that YAML does not allow"
  | .token => "characters that make up no token"
  | .node => "tokens that make up no node"
  | .reference => "an anchor or alias that does not stand for one node"
  | .value => "a node that denotes no value"

/-- Why a run failed. -/
inductive Error
  | shape (fault : Fault)
  | invalidUtf8
  | malformedJson (path : String) (cause : JsonFault) (place : Place)
  | malformedYaml (path : String) (level : YamlLevel)
  | notAnObject (path : String)
  | unsupportedSwagger (version : Value)
  | unsupportedOpenApi (version : Value)
  | versionMissing
  | unsupportedReference (ref : String)
  | unresolvableReference (ref : String)
  | invalidChoice (option : String) (given : Value) (choices : List String)
  | placeholderMissing (given : Value)
  | configNotAMap (path : String)
  | unknownOptions (path : String) (names : List String)
  | malformedConfig (level : YamlLevel)
  | unprintableType (kind : String)
  | unprintableExpression (kind : String)
  | noTypeForVariant (kind : String)
  | notADirectory
  | directoryIsFile
  | fileIsDirectory

namespace Error

/-- The broad kind of a failure. -/
inductive Category
  /-- The input is no document that can be read. -/
  | document
  /-- A reference points outside what is supported. -/
  | reference
  /-- A reference points at nothing. -/
  | target
  /-- An option has a value outside its allowed set. -/
  | option
  /-- Anything that the run does not report as a failure of its own. -/
  | other
  deriving DecidableEq

/-- The broad kind of a failure. -/
def category : Error → Category
  | malformedJson .. | malformedYaml .. | notAnObject .. => .document
  | unsupportedSwagger .. | unsupportedOpenApi .. | versionMissing => .document
  | unsupportedReference .. => .reference
  | unresolvableReference .. => .target
  | invalidChoice .. | placeholderMissing .. | configNotAMap .. | unknownOptions .. => .option
  | _ => .other

/-- Whether a run reports the failure as its own, with the message. -/
def isReported (e : Error) : Bool :=
  e.category != .other

/-- The text that reports the failure, if it has one. -/
def message : Error → Option String
  | malformedJson path cause place =>
    some ("Could not parse " ++ path ++ ": " ++ cause.text ++ ": " ++ place.text)
  | malformedYaml path level => some ("Could not parse " ++ path ++ ": " ++ level.text)
  | notAnObject path => some (path ++ " does not contain an OpenAPI object")
  | unsupportedSwagger version => some ("Unsupported Swagger version: " ++ version.inspect)
  | unsupportedOpenApi version => some ("Unsupported OpenAPI version: " ++ version.inspect)
  | versionMissing => some "Document has neither a 'swagger' nor an 'openapi' field"
  | unsupportedReference ref => some ("Unsupported reference: \"" ++ ref ++ "\"")
  | unresolvableReference ref => some ("Could not find reference: \"" ++ ref ++ "\"")
  | invalidChoice option given choices =>
    some ("Invalid " ++ option ++ " " ++ given.inspect ++ "; expected one of: "
      ++ ", ".intercalate choices)
  | placeholderMissing given =>
    some ("service_name must contain '\x7b\x7bname\x7d\x7d', got " ++ given.inspect)
  | configNotAMap path => some (path ++ " must contain a mapping of options")
  | unknownOptions path names =>
    some ("Unknown config options in " ++ path ++ ": " ++ ", ".intercalate names)
  | unprintableType kind => some ("Cannot print type expression " ++ kind)
  | unprintableExpression kind => some ("Cannot print expression " ++ kind)
  | noTypeForVariant kind => some ("No type expression for model variant " ++ kind)
  | _ => none

end Error

/-- The answer of a computation that can fail. -/
abbrev Outcome := Except Error

/-- A failure on a value that has not the needed shape. -/
def misfit {α : Type} (fault : Fault) : Outcome α :=
  .error (.shape fault)

end TypedClient
