import TypedClient.Text.Case
import TypedClient.Text.Search

/-! Paths of files, as they are written and as they lead to a place. -/

namespace TypedClient

/-- A path without empty segments and without segments that stay where they are. -/
structure Path where
  isAbsolute : Bool
  segments : List String
  deriving DecidableEq, Repr

namespace Path

/-- The segments of a path as it is written. -/
def writtenSegments (s : String) : List String :=
  (Text.splitOn '/' s.toList).map String.ofList

/-- Whether a segment leads anywhere. -/
def isStep (segment : String) : Bool :=
  segment != "" && segment != "."

/-- The path that a text denotes. -/
def ofText (s : String) : Path :=
  { isAbsolute := s.toList.head? == some '/', segments := (writtenSegments s).filter isStep }

/-- The text of a path; the path that leads nowhere else is a point. -/
def text (path : Path) : String :=
  let relative := "/".intercalate path.segments
  if path.isAbsolute then "/" ++ relative else if relative == "" then "." else relative

/-- A path followed by another one, which is relative. -/
def append (path other : Path) : Path :=
  { path with segments := path.segments ++ other.segments }

/-- The path of the directory that holds what the path leads to. -/
def parent (path : Path) : Path :=
  { path with segments := path.segments.dropLast }

/-- The last segment from its last point on, unless the point begins or ends it. -/
def extension (path : Path) : String :=
  let name := (path.segments.getLastD "").toList
  let suffix := (name.reverse.takeWhile (· != '.')).reverse
  if suffix.isEmpty || name.length ≤ suffix.length + 1 then "" else String.ofList ('.' :: suffix)

/-- Whether the extension says that the file holds JSON, in letters of any case. -/
def isJson (path : Path) : Bool :=
  Text.toLower path.extension.toList == ".json".toList

end Path

end TypedClient
