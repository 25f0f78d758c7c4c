import TypedClient.Name.Property
import TypedClient.Text.Case

/-! Names of exported enums, each given out at most once. -/

namespace TypedClient

namespace Name

/-- A letter that a pattern for the letters `a` to `z` matches without regard to case. -/
def isFoldedLetter (c : Char) : Bool :=
  -- Besides the ASCII letters, four characters fold to one of them.
  Text.isAsciiUpper c || Text.isAsciiLower c
    || c == '\u0130' || c == '\u0131' || c == '\u017f' || c == '\u212a'

/-- Replaces a hyphen or underscore with a letter after it by the letter in upper case. -/
def joinHyphens : List Char → List Char
  | a :: b :: rest =>
    if (a == '-' || a == '_') && isFoldedLetter b then Text.upperOf b ++ joinHyphens rest
    else a :: joinHyphens (b :: rest)
  | cs => cs

/-- The text with its first character in upper case. -/
def upperFirst : List Char → List Char
  | [] => []
  | c :: rest => Text.upperOf c ++ rest

end Name

/-- The name under which an enum is exported: unquoted, without hyphens, with a capital first letter. -/
def exportedEnumName (name : String) : String :=
  String.ofList (Name.upperFirst (Name.joinHyphens (unquoteName name).toList))

/-- The enum names given out so far, in order. -/
abbrev EnumRegistry := List String

/-- The exported name for an enum, unless it has no name or its exported name is given out already. -/
def EnumRegistry.assign (registry : EnumRegistry) (name : String) : Option String × EnumRegistry :=
  if name == "" then (none, registry)
  else
    let exported := exportedEnumName name
    if registry.contains exported then (none, registry) else (some exported, registry ++ [exported])

end TypedClient
