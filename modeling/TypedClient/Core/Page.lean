import TypedClient.Config
import TypedClient.TypeScript.Print

/-! Fixed pages of code: lines that are written with guillemets where the page has braces. -/

namespace TypedClient.Core

/-- The lines of a part of a page. -/
abbrev Lines := List String

/-- The character of a page that a written character stands for. -/
def braceOf : Char → Char
  | '«' => '\x7b'
  | '»' => '\x7d'
  | c => c

/-- A part of a page as code. -/
def code (lines : Lines) : String :=
  String.ofList ((joinLines lines).toList.map braceOf)

/-- A page of parts with an empty line between them. -/
def page (parts : List Lines) : String :=
  "\n\n".intercalate (parts.map code) ++ "\n"

end TypedClient.Core
