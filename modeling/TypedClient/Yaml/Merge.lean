import TypedClient.Yaml.Failure
import TypedClient.Yaml.Graph

/-! Merging mappings into the mappings that name them under a merge key. -/

namespace TypedClient.Yaml.Graph

/-- The first entry under a merge key, by the node that stands there, and the entries without it. -/
def firstMerge? (graph : Graph) : List (Nat × Nat) → Option (Nat × List (Nat × Nat))
  | [] => none
  | (key, value) :: rest =>
    if (graph.node key).tag = .merge then some (value, rest)
    else (graph.firstMerge? rest).map fun (found, others) => (found, (key, value) :: others)

/-- The graph in which the keys of a default value among some keys are texts. -/
def withTextKeys (graph : Graph) (entries : List (Nat × Nat)) : Graph :=
  entries.foldl (fun graph entry =>
    if (graph.node entry.1).tag = .default then graph.retag entry.1 .text else graph) graph

/-- The graph after mappings have been treated one by one, and their entries in the end, the last mapping
first. -/
def gather (treat : Graph → Nat → Except Failure Graph) (graph : Graph) :
    List Nat → Except Failure (Graph × List (Nat × Nat))
  | [] => .ok (graph, [])
  | id :: rest =>
    match (graph.node id).content with
    | .mapping _ => do
      let graph ← treat graph id
      let entries := graph.entries id
      let (graph, others) ← gather treat graph rest
      return (graph, others ++ entries)
    | _ => mistake .value

/-- The mappings that a node under a merge key names. -/
def mergeSources (graph : Graph) (id : Nat) : List Nat :=
  match (graph.node id).content with
  | .sequence items => items
  | _ => [id]

/-- The graph in which a mapping has the entries that are merged into it, before its own ones. -/
def mergeInto : Nat → List (Nat × Nat) → Graph → Nat → Except Failure Graph
  | 0, _, _, _ => impossible .tooDeep
  | fuel + 1, merged, graph, id =>
    match graph.firstMerge? (graph.entries id) with
    | none =>
      let own := graph.entries id
      let graph := graph.withTextKeys own
      .ok (if merged.isEmpty then graph else graph.fill id (.mapping (merged ++ own)))
    | some (named, others) => do
      let rest := graph.fill id (.mapping others)
      let (graph, more) ← gather (mergeInto fuel []) rest (rest.mergeSources named)
      mergeInto fuel (merged ++ more) graph id

/-- The graph in which a mapping, and every mapping that it names, has no merge keys any more. -/
def merge (graph : Graph) (id : Nat) : Except Failure Graph :=
  -- Each step takes away one merge key, and none is ever added.
  mergeInto (graph.entryCount + 1) [] graph id

end TypedClient.Yaml.Graph
