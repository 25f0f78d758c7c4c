import TypedClient.Client.Build
import TypedClient.Core.Files
import TypedClient.Declaration.Files
import TypedClient.TypeScript.Render

/-! The texts of everything that is generated for a client. -/

namespace TypedClient

/-- A path, relative to the output directory, and the text to be written there. -/
abbrev Page := String × String

namespace Client

/-- The files of the runtime. -/
def corePages (client : Client) (config : Config) : Outcome (List Page) := do
  let files ← Core.files config.client client.server (.text client.version)
  return files.map fun file => ("core/" ++ file.1, file.2)

/-- The text of a file under its name. -/
def renderPage (file : OutputFile) : Outcome Page :=
  return (file.name, ← file.render)

/-- All texts: the runtime, if it is wanted, and the files that declare something. -/
def render (client : Client) (files : List OutputFile) (config : Config) : Outcome (List Page) := do
  let core ← if config.exportCore.truthy then client.corePages config else pure []
  let pages ← (files.filter fun file => !file.isEmpty).mapM renderPage
  return core ++ pages

/-- All texts for a document. -/
def pages (document : Value) (config : Config) : Outcome (List Page) := do
  let client ← Client.ofDocument document config
  let files ← client.files document config
  client.render (files.map Prod.snd) config

end Client

end TypedClient
