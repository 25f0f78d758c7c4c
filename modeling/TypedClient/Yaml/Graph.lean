import TypedClient.Yaml.Tag

/-! The nodes of a YAML document, which refer to one another by number. -/

namespace TypedClient.Yaml

/-- What a node is made of. -/
inductive Content
  | scalar (text : String)
  | sequence (items : List Nat)
  | mapping (entries : List (Nat × Nat))
  deriving Repr

/-- A node of a document. -/
structure Node where
  tag : Tag
  content : Content
  deriving Repr

instance : Inhabited Node := ⟨⟨.null, .scalar ""⟩⟩

/-- The nodes of a document; an alias has the number of the node that it stands for. -/
abbrev Graph := Array Node

namespace Graph

/-- The node with a number. -/
def node (graph : Graph) (id : Nat) : Node :=
  graph.getD id default

/-- The graph with a further node. -/
def add (graph : Graph) (node : Node) : Graph :=
  graph.push node

/-- The graph with another content of a node. -/
def fill (graph : Graph) (id : Nat) (content : Content) : Graph :=
  graph.modify id fun node => { node with content }

/-- The graph with another kind of a node. -/
def retag (graph : Graph) (id : Nat) (tag : Tag) : Graph :=
  graph.modify id fun node => { node with tag }

/-- The entries of a node, which has none unless it is a mapping. -/
def entries (graph : Graph) (id : Nat) : List (Nat × Nat) :=
  match (graph.node id).content with
  | .mapping entries => entries
  | _ => []

/-- The number of entries of all mappings together. -/
def entryCount (graph : Graph) : Nat :=
  ((List.range graph.size).map fun id => (graph.entries id).length).foldl (· + ·) 0

end Graph

end TypedClient.Yaml
