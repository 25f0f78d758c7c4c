import TypedClient.Yaml.Graph
import TypedClient.Yaml.Lexer
import TypedClient.Yaml.Spelling

/-! The nodes that the words of a YAML text make up. -/

namespace TypedClient.Yaml

/-- What is left of the words of a text, and what has been read before them. -/
structure Reader where
  tokens : List Token
  /-- What is wrong with the text after its last word. -/
  failure : Failure
  nodes : Graph := #[]
  /-- The nodes that have a name. -/
  anchors : List (String × Nat) := []
  /-- The prefixes that handles stand for. -/
  handles : List (String × String) := []

/-- A step that reads some words. -/
abbrev Reading := StateT Reader (Except Failure)

namespace Reading

/-- Gives up because of a mistake at a level. -/
def refuse {α : Type} (level : YamlLevel) : Reading α :=
  throw (.malformed level)

/-- The next word. -/
def peek : Reading Token := do
  match (← get).tokens with
  | token :: _ => return token
  | [] => throw (← get).failure

/-- Passes over the next word. -/
def skip : Reading Unit :=
  modify fun reader => { reader with tokens := reader.tokens.drop 1 }

/-- Passes over the next word if it is the given one, and says whether it was. -/
def skipIf (token : Token) : Reading Bool := do
  -- Looking at a word that is not there brings up the mistake after the last one.
  if (← peek) = token then
    skip
    return true
  else return false

/-- Whether the next word is one of the given ones. -/
def sees (tokens : List Token) : Reading Bool :=
  return tokens.contains (← peek)

/-- Passes over the next word, which has to be the given one. -/
def expect (token : Token) : Reading Unit := do
  if !(← skipIf token) then refuse .node

/-- Adds a node, and says its number. -/
def add (tag : Tag) (content : Content) : Reading Nat := do
  let id := (← get).nodes.size
  modify fun reader => { reader with nodes := reader.nodes.add ⟨tag, content⟩ }
  return id

/-- Sets the content of a node. -/
def fill (id : Nat) (content : Content) : Reading Unit :=
  modify fun reader => { reader with nodes := reader.nodes.fill id content }

/-- What stands before a node: its anchor and the address of its kind, in either order. -/
structure Properties where
  anchor : Option String := none
  address : Option String := none

/-- The anchor at the next word, if there is one. -/
def anchor? : Reading (Option String) := do
  match ← peek with
  | .anchor name =>
    skip
    return some name
  | _ => return none

/-- The name of a kind at the next word, if there is one. -/
def tag? : Reading (Option TagName) := do
  match ← peek with
  | .tag name =>
    skip
    return some name
  | _ => return none

/-- The address that a name stands for, whose handle has to stand for a prefix. -/
def addressOf (name : TagName) : Reading String := do
  match name.handle with
  | none => return name.rest
  | some handle =>
    match (← get).handles.lookup handle with
    | some pre => return pre ++ name.rest
    | none => refuse .node

/-- The properties at the next words. -/
def properties : Reading Properties := do
  let early ← anchor?
  let name ← tag?
  let anchor ← if early.isSome then pure early else anchor?
  let address ←
    match name with
    | none => pure none
    | some name => pure (some (← addressOf name))
  return { anchor, address }

/-- Adds a node under its anchor, which has to be new. -/
def addNamed (anchor : Option String) (tag : Tag) (content : Content) : Reading Nat := do
  match anchor with
  | none => add tag content
  | some name =>
    if ((← get).anchors.lookup name).isSome then refuse .reference
    let id ← add tag content
    modify fun reader => { reader with anchors := (name, id) :: reader.anchors }
    return id

/-- The node that an alias stands for. -/
def aliased (name : String) : Reading Nat := do
  match (← get).anchors.lookup name with
  | some id => return id
  | none => refuse .reference

/-- The kind of a scalar: the one at the address, or the one that its spelling tells if that counts. -/
def scalarTag (address : Option String) (isPlain : Bool) (text : String) : Tag :=
  match address with
  -- Quotes make a text of what they hold.
  | none => if isPlain then Spelling.tag text else .text
  -- A lone exclamation mark leaves the kind open.
  | some "!" => Spelling.tag text
  | some address => .ofAddress address

/-- The kind of a collection: the one at the address, or the usual one. -/
def collectionTag (address : Option String) (usual : Tag) : Tag :=
  match address with
  | none | some "!" => usual
  | some address => .ofAddress address

/-- The node that stands where none is written. -/
def absent : Reading Nat :=
  add .null (.scalar "")

/-- Where a node stands, which decides how it can be written. -/
inductive Position
  /-- Inside a flow collection. -/
  | flow
  /-- Inside a block collection. -/
  | block
  /-- As a key or value of a block mapping, where a sequence needs no indentation. -/
  | entry
  deriving DecidableEq

/-- How many collections may lie inside one another. -/
def maxDepth : Nat := 485

mutual

/-- The node at the next words, around which the given number of collections are open. -/
def node : Nat → Nat → Position → Reading Nat
  | 0, _, _ => throw (.impossible .tooDeep)
  | fuel + 1, depth, position => do
    if maxDepth < depth then throw (.impossible .tooDeep)
    -- An alias is no node of its own, so it has no properties.
    match ← peek with
    | .reference name =>
      skip
      aliased name
    | _ =>
      let given ← properties
      content fuel depth position given

/-- The node that has the given properties. -/
def content : Nat → Nat → Position → Properties → Reading Nat
  | 0, _, _, _ => throw (.impossible .tooDeep)
  | fuel + 1, depth, position, given => do
    -- A collection is named before its items are read, so they can refer to it.
    let inBlock := position ≠ .flow
    let openSequence := addNamed given.anchor (collectionTag given.address .sequence) (.sequence [])
    let openMapping := addNamed given.anchor (collectionTag given.address .mapping) (.mapping [])
    match ← peek with
    | .scalar text isPlain =>
      skip
      addNamed given.anchor (scalarTag given.address isPlain text) (.scalar text)
    | .flowSequenceStart =>
      skip
      let id ← openSequence
      fill id (.sequence (← flowItems fuel (depth + 1) []))
      return id
    | .flowMappingStart =>
      skip
      let id ← openMapping
      fill id (.mapping (← flowEntries fuel (depth + 1) []))
      return id
    | token =>
      -- The marks of such a sequence stand at the column of its mapping, so nothing opens it.
      if position = .entry ∧ token = .blockEntry then
        let id ← openSequence
        fill id (.sequence (← indentlessItems fuel (depth + 1) []))
        return id
      else if inBlock ∧ token = .blockSequenceStart then
        skip
        let id ← openSequence
        fill id (.sequence (← blockItems fuel (depth + 1) []))
        return id
      else if inBlock ∧ token = .blockMappingStart then
        skip
        let id ← openMapping
        fill id (.mapping (← blockEntries fuel (depth + 1) []))
        return id
      else if given.anchor.isSome || given.address.isSome then
        -- Properties alone stand for an empty scalar.
        addNamed given.anchor (scalarTag given.address true "") (.scalar "")
      else refuse .node

/-- The node at the next words, or an absent one if one of the given words is next. -/
def nodeBefore : Nat → Nat → Position → List Token → Reading Nat
  | 0, _, _, _ => throw (.impossible .tooDeep)
  | fuel + 1, depth, position, ends => do
    if ← sees ends then absent else node fuel depth position

/-- The items of a block sequence up to its end, after those that have been read. -/
def blockItems : Nat → Nat → List Nat → Reading (List Nat)
  | 0, _, _ => throw (.impossible .tooDeep)
  | fuel + 1, depth, items => do
    if ← skipIf .blockEntry then
      let item ← nodeBefore fuel depth .block [.blockEntry, .blockEnd]
      blockItems fuel depth (item :: items)
    else
      expect .blockEnd
      return items.reverse

/-- The items of a sequence that stands at the indentation of its mapping. -/
def indentlessItems : Nat → Nat → List Nat → Reading (List Nat)
  | 0, _, _ => throw (.impossible .tooDeep)
  | fuel + 1, depth, items => do
    if ← skipIf .blockEntry then
      let item ← nodeBefore fuel depth .block [.blockEntry, .key, .value, .blockEnd]
      indentlessItems fuel depth (item :: items)
    else return items.reverse

/-- The entries of a block mapping up to its end, after those that have been read. -/
def blockEntries : Nat → Nat → List (Nat × Nat) → Reading (List (Nat × Nat))
  | 0, _, _ => throw (.impossible .tooDeep)
  | fuel + 1, depth, entries => do
    let ends : List Token := [.key, .value, .blockEnd]
    if ← skipIf .key then
      let key ← nodeBefore fuel depth .entry ends
      let value ← if ← skipIf .value then nodeBefore fuel depth .entry ends else absent
      blockEntries fuel depth ((key, value) :: entries)
    else
      expect .blockEnd
      return entries.reverse

/-- The items of a flow sequence up to its end; a single pair is a mapping of its own. -/
def flowItems : Nat → Nat → List Nat → Reading (List Nat)
  | 0, _, _ => throw (.impossible .tooDeep)
  | fuel + 1, depth, items => do
    if ← skipIf .flowSequenceEnd then return items.reverse
    if !items.isEmpty then expect .flowEntry
    if ← skipIf .key then
      -- A pair is a mapping of one entry, which is added before what it holds.
      let id ← add .mapping (.mapping [])
      let key ← nodeBefore fuel depth .flow [.value, .flowEntry, .flowSequenceEnd]
      let value ←
        if ← skipIf .value then nodeBefore fuel depth .flow [.flowEntry, .flowSequenceEnd]
        else absent
      fill id (.mapping [(key, value)])
      flowItems fuel depth (id :: items)
    else if ← skipIf .flowSequenceEnd then return items.reverse
    else
      let item ← node fuel depth .flow
      flowItems fuel depth (item :: items)

/-- The entries of a flow mapping up to its end; a lone node is a key without a value. -/
def flowEntries : Nat → Nat → List (Nat × Nat) → Reading (List (Nat × Nat))
  | 0, _, _ => throw (.impossible .tooDeep)
  | fuel + 1, depth, entries => do
    if ← skipIf .flowMappingEnd then return entries.reverse
    if !entries.isEmpty then expect .flowEntry
    if ← skipIf .key then
      let key ← nodeBefore fuel depth .flow [.value, .flowEntry, .flowMappingEnd]
      let value ←
        if ← skipIf .value then nodeBefore fuel depth .flow [.flowEntry, .flowMappingEnd]
        else absent
      flowEntries fuel depth ((key, value) :: entries)
    else if ← skipIf .flowMappingEnd then return entries.reverse
    else
      let key ← node fuel depth .flow
      let value ← absent
      flowEntries fuel depth ((key, value) :: entries)

end

/-- Passes over all words in a row that are the given one. -/
def skipAll (token : Token) : Reading Unit :=
  modify fun reader => { reader with tokens := reader.tokens.dropWhile (· = token) }

/-- Whether a word is a directive. -/
def isDirective : Token → Bool
  | .directive _ => true
  | _ => false

/-- The prefixes that handles stand for where no directive says otherwise. -/
def usualHandles : List (String × String) :=
  [("!", "!"), ("!!", Tag.standardPrefix)]

/-- Passes over directives: they may give the version once, which has to be the one that is read, and
each handle one prefix. -/
def directives (isVersioned : Bool) : Nat → Reading Unit
  | 0 => refuse .node
  | fuel + 1 => do
    match ← peek with
    | .directive said =>
      skip
      match said with
      | .version major =>
        -- A second version is a mistake even if it is the same.
        if isVersioned || major != 1 then refuse .node
        directives true fuel
      | .handle name address =>
        if ((← get).handles.lookup name).isSome then refuse .node
        modify fun reader => { reader with handles := (name, address) :: reader.handles }
        directives isVersioned fuel
      | .other => directives isVersioned fuel
    | _ => return

/-- Passes over the directives and the mark at the start of a document. -/
def documentStart : Reading Unit := do
  modify fun reader => { reader with handles := [] }
  directives false ((← get).tokens.length + 1)
  modify fun reader => { reader with handles := reader.handles ++ usualHandles }
  expect .documentStart

/-- The node of a document whose start is marked; it is absent if a mark follows. -/
def markedDocument (fuel : Nat) : Reading Nat := do
  documentStart
  let next ← peek
  if isDirective next || [.documentStart, .documentEnd, .streamEnd].contains next then absent
  else node fuel 0 .block

/-- The end of a text: a further document is a mistake. -/
def ending : Reading Unit := do
  skipAll .documentEnd
  if !(← sees [.streamEnd]) then
    -- A mistake at the start of a further document comes before the mistake that it is.
    documentStart
    refuse .reference

/-- The node of the only document of a text, if the text has one. -/
def document (fuel : Nat) : Reading (Option Nat) := do
  if ← sees [.streamEnd] then return none
  let first ← peek
  let isMarked := isDirective first || first = .documentStart
  let root ← if isMarked then markedDocument fuel else node fuel 0 .block
  ending
  return some root

end Reading

/-- The nodes of the only document of a text, and the outermost of them, if the text has one. -/
def Graph.ofText (text : List Char) : Except Failure (Graph × Option Nat) := do
  let (tokens, failure) := tokens text
  -- No word is looked at by more than four steps inside one another.
  let fuel := 4 * tokens.length + 4
  let reader : Reader := {
    tokens, failure := failure.getD (.malformed .node), handles := Reading.usualHandles }
  let (root, reader) ← (Reading.document fuel).run reader
  return (reader.nodes, root)

end TypedClient.Yaml
