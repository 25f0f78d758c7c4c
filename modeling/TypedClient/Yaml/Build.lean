import TypedClient.Value.Display
import TypedClient.Value.Equality
import TypedClient.Yaml.Meaning
import TypedClient.Yaml.Merge

/-! Building the values of nodes: a scalar when it is first met, a collection in its turn. -/

namespace TypedClient.Yaml

/-- What is known of the value of a node; the parts of a collection are told by their numbers. -/
inductive Part
  | scalar (s : Scalar)
  /-- A collection whose turn has not come. -/
  | waiting
  | list (items : List Nat)
  | map (members : List (Scalar × Nat))
  | set (items : List Scalar)
  | pairs (entries : List (Nat × Nat))

/-- The nodes of a document, what is known of their values, and the collections in the order in which
they have been met. -/
structure Builder where
  graph : Graph
  parts : Array (Option Part)
  met : Array Nat := #[]

/-- A step that builds some values. -/
abbrev Building := StateT Builder (Except Failure)

namespace Building

/-- Gives up because a node denotes no value. -/
def refuse {α : Type} : Building α :=
  throw (.malformed .value)

/-- Notes what is known of a node. -/
def note (id : Nat) (part : Part) : Building Unit :=
  modify fun builder => { builder with parts := builder.parts.setIfInBounds id (some part) }

/-- The text of a scalar; a mapping stands for what is under its key of a default value. -/
def textOf (graph : Graph) : Nat → Nat → Except Failure String
  | 0, _ => impossible .tooDeep
  | fuel + 1, id =>
    match (graph.node id).content with
    | .scalar text => .ok text
    | .mapping entries =>
      match entries.find? fun entry => (graph.node entry.1).tag = .default with
      | some (_, value) => textOf graph fuel value
      | none => mistake .value
    | .sequence _ => mistake .value

/-- The value of a node of a kind without parts. -/
def scalarOf (graph : Graph) (id : Nat) : Except Failure Scalar := do
  let node := graph.node id
  if [.merge, .default, .unknown].contains node.tag then mistake .value
  let text ← textOf graph (graph.size + 1) id
  match node.tag, node.content with
  -- Only a written date can be taken apart.
  | .timestamp, .mapping _ => impossible .wrongKind
  | tag, _ => Meaning.scalar tag text

/-- Meets a node: its value if it is a scalar, and else nothing yet. -/
def meet (id : Nat) : Building (Option Scalar) := do
  match ((← get).parts.getD id none) with
  | some (.scalar s) => return some s
  | some _ => return none
  | none =>
    let graph := (← get).graph
    if (graph.node id).tag.isCollection then
      note id .waiting
      modify fun builder => { builder with met := builder.met.push id }
      return none
    else
      let s ← scalarOf graph id
      note id (.scalar s)
      return some s

/-- The members that entries make up: keys have to be scalars, and of equal ones the last one counts. -/
def members (known : List (Scalar × Nat)) : List (Nat × Nat) → Building (List (Scalar × Nat))
  | [] => return known
  | (key, value) :: rest => do
    match ← meet key with
    | none => refuse
    | some key =>
      let _ ← meet value
      members (Members.insert key value known) rest

/-- The members of a mapping, after what is to be merged into it has been. -/
def membersOf (id : Nat) : Building (List (Scalar × Nat)) := do
  let graph := (← get).graph
  match (graph.node id).content with
  | .mapping _ =>
    let graph ← graph.merge id
    modify fun builder => { builder with graph }
    members [] (graph.entries id)
  | _ => refuse

/-- The only entry of a mapping that stands for a pair. -/
def pairOf (id : Nat) : Building (Nat × Nat) := do
  match ((← get).graph.node id).content with
  | .mapping [(key, value)] =>
    let _ ← meet key
    let _ ← meet value
    return (key, value)
  | _ => refuse

/-- The numbers of the items of a sequence. -/
def itemsOf (id : Nat) : Building (List Nat) := do
  match ((← get).graph.node id).content with
  | .sequence items => return items
  | _ => refuse

/-- Scalars in the order of their texts. -/
def ordered (items : List Scalar) : List Scalar :=
  items.mergeSort fun a b => a.inspect ≤ b.inspect

/-- Builds a collection from its parts, which are met in order. -/
def build (id : Nat) : Building Unit := do
  match ((← get).graph.node id).tag with
  | .sequence =>
    let items ← itemsOf id
    for item in items do
      let _ ← meet item
    note id (.list items)
  | .mapping => note id (.map (← membersOf id))
  | .set => note id (.set (ordered ((← membersOf id).map Prod.fst)))
  | _ => note id (.pairs (← (← itemsOf id).mapM pairOf))

/-- Builds all collections in the order in which they are met, starting with a node. -/
def buildFrom (root : Nat) : Building Unit := do
  let _ ← meet root
  -- No node waits twice, so there are no more turns than nodes.
  for turn in List.range (← get).graph.size do
    match (← get).met[turn]? with
    | some id => build id
    | none => return

end Building

/-- The value of a node as a tree; one that has itself as a part is no tree. -/
def Builder.value (builder : Builder) : Nat → Nat → Except Failure Value
  | 0, _ => impossible .tooDeep
  | fuel + 1, id =>
    match builder.parts.getD id none with
    | some (.scalar s) => .ok (.scalar s)
    | some (.list items) => return .list (← items.mapM (builder.value fuel))
    | some (.map members) =>
      return .map (← members.mapM fun member => return (member.1, ← builder.value fuel member.2))
    | some (.set items) => .ok (.set items)
    | some (.pairs entries) =>
      return .list (← entries.mapM fun entry =>
        return .pair (← builder.value fuel entry.1) (← builder.value fuel entry.2))
    | some .waiting | none => mistake .value

/-- The value of a node of a document. -/
def Graph.value (graph : Graph) (root : Nat) : Except Failure Value := do
  let start : Builder := { graph, parts := Array.replicate graph.size none }
  let (_, builder) ← (Building.buildFrom root).run start
  builder.value (graph.size + 1) root

end TypedClient.Yaml
