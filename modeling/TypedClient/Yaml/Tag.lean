import TypedClient.Text.Search

/-! The kinds of the nodes of a YAML text. -/

namespace TypedClient.Yaml

/-- The kind of a node. -/
inductive Tag
  | null
  | bool
  | int
  | float
  | timestamp
  | text
  | binary
  | sequence
  | mapping
  /-- A mapping of which only the keys count. -/
  | set
  /-- A sequence of mappings with one entry each. -/
  | pairs
  /-- A key whose value is merged into the mapping around it. -/
  | merge
  /-- The key of the value that a mapping stands for as a whole. -/
  | default
  /-- A kind that has no values here. -/
  | unknown
  deriving DecidableEq, Repr

namespace Tag

/-- The names of the kinds. -/
def names : List (String × Tag) :=
  [("null", null), ("bool", bool), ("int", int), ("float", float), ("timestamp", timestamp),
   ("str", text), ("binary", binary), ("seq", sequence), ("map", mapping), ("set", set),
   ("pairs", pairs), ("omap", pairs), ("merge", merge), ("value", default)]

/-- What the address of every standard kind starts with. -/
def standardPrefix : String := "tag:yaml.org,2002:"

/-- The kind at an address. -/
def ofAddress (address : String) : Tag :=
  match Text.afterHead? standardPrefix.toList address.toList with
  | some name => (names.lookup (String.ofList name)).getD unknown
  | none => unknown

/-- Whether the values of a kind have parts. -/
def isCollection : Tag → Bool
  | sequence | mapping | set | pairs => true
  | _ => false

end Tag

end TypedClient.Yaml
