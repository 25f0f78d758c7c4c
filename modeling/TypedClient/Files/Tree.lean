import TypedClient.Error
import TypedClient.Files.Path

/-! The files below a directory, and what can go wrong when one is written. -/

namespace TypedClient

/-- The files below a directory, each at its place with its text. -/
abbrev FileTree := List (List String × String)

/-- What stands at a place; the bytes of a file need not make up a text. -/
inductive FileKind
  | file (text : Outcome String)
  | directory

namespace FileTree

/-- What stands at a place, if anything does; a directory holds at least one file. -/
def at? (tree : FileTree) (place : List String) : Option FileKind :=
  match tree.lookup place with
  | some text => some (.file (.ok text))
  | none =>
    if place.isEmpty || tree.any fun entry => place.isPrefixOf entry.1 then some .directory else none

/-- The place one segment further on; two points lead back. -/
def step (place : List String) (segment : String) : List String :=
  if segment == ".." && place.getLast?.any (· != "..") then place.dropLast else place ++ [segment]

/-- The place that a path leads to. -/
def place (path : Path) : List String :=
  path.segments.foldl step (if path.isAbsolute then ["/"] else [])

/-- Follows segments of a written path from a place, through directories only. -/
def follow (tree : FileTree) (place : List String) : List String → Option FileKind
  | [] => tree.at? place
  | segment :: rest =>
    match tree.at? place with
    | some .directory =>
      follow tree (if Path.isStep segment then step place segment else place) rest
    | _ => none

/-- What a written path leads to; the empty one leads nowhere. -/
def find? (tree : FileTree) (written : String) : Option FileKind :=
  if written == "" then none
  else
    let start := if written.toList.head? == some '/' then ["/"] else []
    tree.follow start (Path.writtenSegments written)

/-- Makes sure that a directory stands at a place, which is refused if files are in the way. -/
def ensureDirectory (tree : FileTree) (place : List String) : Outcome Unit :=
  let isFile := fun (above : List String) => (tree.lookup above).isSome
  if isFile place then .error .directoryIsFile
  else if (List.range place.length).any fun n => isFile (place.take n) then .error .notADirectory
  else .ok ()

/-- Puts a text at a place, over the text that the place has. -/
def put (text : String) (place : List String) : FileTree → FileTree
  | [] => [(place, text)]
  | entry :: rest =>
    if entry.1 == place then (place, text) :: rest else entry :: put text place rest

/-- Writes a file into a directory that is made if it is missing. -/
def write (tree : FileTree) (path : Path) (text : String) : Outcome FileTree := do
  let place := place path
  ensureDirectory tree place.dropLast
  match tree.at? place with
  | some .directory => .error .fileIsDirectory
  | _ => return tree.put text place

/-- The files that are new or have another text than before, by path. -/
def changes (before after : FileTree) : List (String × String) :=
  let changed := after.filter fun entry => before.lookup entry.1 != some entry.2
  let named := changed.map fun entry => ("/".intercalate entry.1, entry.2)
  named.mergeSort fun a b => a.1 ≤ b.1

end FileTree

end TypedClient
