import TypedClient.Text.Blank
import TypedClient.Text.Case
import TypedClient.Text.Digit
import TypedClient.Text.Search

/-! Joining the words of a name in camel case. -/

namespace TypedClient

namespace Name

/-- Sets the last capital of a row apart when a small letter follows it, as in `HTTP_Server`. -/
def splitAcronyms : List Char → List Char
  | a :: b :: c :: rest =>
    if Text.isAsciiUpper a && Text.isAsciiUpper b && Text.isAsciiLower c then
      a :: '_' :: splitAcronyms (b :: c :: rest)
    else a :: splitAcronyms (b :: c :: rest)
  | cs => cs

/-- Sets a capital apart from a small letter or a digit before it. -/
def splitHumps : List Char → List Char
  | a :: b :: rest =>
    if (Text.isAsciiLower a || Text.isDecimal a) && Text.isAsciiUpper b then
      a :: '_' :: splitHumps (b :: rest)
    else a :: splitHumps (b :: rest)
  | cs => cs

/-- A character that stands between words. -/
def isSeparator (c : Char) : Bool :=
  c == '_' || c == '.' || c == '-' || Text.isBlank c

/-- The words of a name in lower case: the parts between separators and changes of case. -/
def words (cs : List Char) : List (List Char) :=
  (Text.wordsBy isSeparator (splitHumps (splitAcronyms (Text.trim cs)))).map Text.toLower

/-- The words joined, all but the first with a capital, and with `pascal` the first too. -/
def joinCamel (pascal : Bool) : List (List Char) → List Char
  | [] => []
  | head :: tail => (if pascal then Text.capitalize head else head) ++ tail.flatMap Text.capitalize

/-- A name in camel case. -/
def camel (pascal : Bool) (cs : List Char) : List Char :=
  joinCamel pascal (words cs)

end Name

/-- A name in camel case, with a small first letter. -/
def camelCase (value : String) : String :=
  String.ofList (Name.camel false value.toList)

/-- A name in camel case, with a capital first letter. -/
def pascalCase (value : String) : String :=
  String.ofList (Name.camel true value.toList)

end TypedClient
