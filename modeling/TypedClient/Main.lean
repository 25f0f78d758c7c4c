import TypedClient.CommandLine.Run

/-! The program: reads the named files, runs the command and writes what it has made. -/

namespace TypedClient.CommandLine

/-- The paths that the arguments name. -/
def namedPaths (arguments : List String) : List String :=
  match sortOut {} none arguments with
  | none => []
  | some sorted =>
    let named := ["config", "output"].filterMap fun name =>
      match Members.get sorted.settings name with
      | .text written => some written
      | _ => none
    sorted.others ++ named

/-- The path and those of all directories that lead to it. -/
def withParents (written : String) : List String :=
  let path := Path.ofText written
  (List.range path.segments.length).map fun n =>
    ({ path with segments := path.segments.take (n + 1) } : Path).text

/-- The text as the system takes it. -/
def outward (s : String) : String :=
  (Text.plain? s).getD ""

/-- The file at a path, if there is one. -/
def readFile? (path : String) : IO (Option (Outcome String)) := do
  try return some (Text.ofBytes (← IO.FS.readBinFile (outward path)))
  catch _ => return none

/-- What stands in the file system at the given paths. -/
def readFiles (paths : List String) : IO (List (String × FileKind)) :=
  paths.filterMapM fun path => return (← readFile? path).map fun text => (path, .file text)

/-- The tree of the files at the paths and above them. -/
def readTree (paths : List String) : IO FileTree := do
  let files ← readFiles (paths.flatMap withParents)
  return files.filterMap fun
    | (path, .file text) => some (FileTree.place (.ofText path), text.toOption.getD "")
    | _ => none

/-- Writes a file, with the directories that lead to it. -/
def writeFile (path text : String) : IO Unit := do
  IO.FS.createDirAll (outward (Path.ofText path).parent.text)
  IO.FS.writeFile (outward path) text

end TypedClient.CommandLine

open TypedClient CommandLine in
/-- Runs the command on the files of the system. -/
def main (arguments : List String) : IO UInt32 := do
  let arguments := arguments.map Text.held
  let paths := namedPaths arguments
  let files ← readFiles paths
  let tree ← readTree paths
  let result := perform tree (parse (List.lookup · files) arguments)
  IO.print (outward result.output)
  for (path, text) in tree.changes result.tree do
    writeFile path text
  if let some e := result.failure then
    IO.eprintln ("Error: " ++ outward (e.message.getD "the run could not be completed"))
  return result.exitCode.toUInt32
