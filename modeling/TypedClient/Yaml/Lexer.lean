import TypedClient.Yaml.Block
import TypedClient.Yaml.Plain
import TypedClient.Yaml.Quoted
import TypedClient.Yaml.Token

/-! The words of a YAML text in order; words that only indentation shows are among them. -/

namespace TypedClient.Yaml

/-- A word that turns out to be a key if a colon follows it. -/
structure PossibleKey where
  /-- The number of words before it. -/
  position : Nat
  /-- Whether nothing but a key can stand where it does. -/
  isRequired : Bool
  start : Cursor

/-- The words read so far, and what decides how the next one is read. -/
structure Lexer where
  cursor : Cursor
  /-- The words so far, the last one first. -/
  tokens : List Token := []
  /-- The number of words so far. -/
  count : Nat := 0
  /-- The number of open flow collections. -/
  depth : Nat := 0
  /-- The column of the innermost block collection. -/
  indent : Int := -1
  /-- The columns of the block collections around it. -/
  outer : List Int := []
  /-- Whether a key can start at the next word. -/
  allowsKey : Bool := true
  /-- The possible keys, each with the number of flow collections it is inside of. -/
  possible : List (Nat × PossibleKey) := []

namespace Lexer

/-- Adds a word. -/
def push (lexer : Lexer) (token : Token) : Lexer :=
  { lexer with tokens := token :: lexer.tokens, count := lexer.count + 1 }

/-- Adds a word before those from a position on. -/
def insert (lexer : Lexer) (position : Nat) (token : Token) : Lexer :=
  -- The words stand in reverse, so those from the position on come first.
  let (later, earlier) := lexer.tokens.splitAt (lexer.count - position)
  { lexer with tokens := later ++ token :: earlier, count := lexer.count + 1 }

/-- Adds a word of the given number of characters. -/
def take (lexer : Lexer) (token : Token) (count : Nat) : Lexer :=
  { lexer.push token with cursor := lexer.cursor.forward count }

/-- The number of characters up to the given rest of the text. -/
def countTo (lexer : Lexer) (rest : List Char) : Nat :=
  lexer.cursor.rest.length - rest.length

/-- Whether reading is inside a flow collection. -/
def inFlow (lexer : Lexer) : Bool :=
  lexer.depth != 0

/-- The column of the next word. -/
def column (lexer : Lexer) : Int :=
  lexer.cursor.column

/-- The number of characters before the next word, and whether a line break is among them. -/
def gapLength (inComment : Bool) : List Char → Nat × Bool
  | [] => (0, false)
  | c :: rest =>
    if isBreak c then ((gapLength false rest).1 + 1, true)
    else if inComment || c == ' ' then
      let (count, isBroken) := gapLength inComment rest
      (count + 1, isBroken)
    else if c == '#' then
      let (count, isBroken) := gapLength true rest
      (count + 1, isBroken)
    else (0, false)

/-- Goes on to the next word; on a new line a key can start. -/
def skipGap (lexer : Lexer) : Lexer :=
  let (count, isBroken) := gapLength false lexer.cursor.rest
  { lexer with
    cursor := lexer.cursor.forward count
    allowsKey := lexer.allowsKey || (isBroken && !lexer.inFlow) }

/-- Whether a possible key is too far back: on another line, or more than 1024 characters away. -/
def isStale (cursor : Cursor) (key : PossibleKey) : Bool :=
  key.start.line != cursor.line || 1024 < cursor.index - key.start.index

/-- Gives up the possible keys that are too far back. -/
def dropStale (lexer : Lexer) : Except Failure Lexer :=
  let isLost := fun (entry : Nat × PossibleKey) => isStale lexer.cursor entry.2
  if lexer.possible.any fun entry => isLost entry && entry.2.isRequired then mistake .token
  else .ok { lexer with possible := lexer.possible.filter fun entry => !isLost entry }

/-- Gives up the possible key of the innermost collection. -/
def dropKey (lexer : Lexer) : Except Failure Lexer :=
  if lexer.possible.any fun entry => entry.1 == lexer.depth && entry.2.isRequired then mistake .token
  else .ok { lexer with possible := lexer.possible.filter fun entry => entry.1 != lexer.depth }

/-- Notes that the next word may turn out to be a key. -/
def noteKey (lexer : Lexer) : Except Failure Lexer := do
  if !lexer.allowsKey then return lexer
  let lexer ← lexer.dropKey
  let key : PossibleKey := {
    position := lexer.count
    isRequired := !lexer.inFlow && lexer.indent == lexer.column
    start := lexer.cursor }
  return { lexer with possible := (lexer.depth, key) :: lexer.possible }

/-- Closes block collections as long as they lie beyond a column, given the columns around them. -/
def closeTo (column : Int) (lexer : Lexer) : List Int → Lexer
  | [] => lexer
  | next :: rest =>
    -- Each column that is passed on the way out ends one collection.
    if column < lexer.indent then
      closeTo column { lexer.push .blockEnd with indent := next, outer := rest } rest
    else lexer

/-- Closes the block collections that a word at the given column is not part of. -/
def unwind (lexer : Lexer) (column : Int) : Lexer :=
  if lexer.inFlow then lexer else closeTo column lexer lexer.outer

/-- Opens a block collection at a column unless one is open there, its mark before the given word. -/
def openBlock (lexer : Lexer) (column : Int) (start : Token) (position : Nat) : Lexer :=
  if lexer.indent < column then
    { lexer.insert position start with indent := column, outer := lexer.indent :: lexer.outer }
  else lexer

/-- A mark that stands outside all collections. -/
def topLevel (lexer : Lexer) (token : Token) (count : Nat) : Except Failure Lexer := do
  let lexer ← (lexer.unwind (-1)).dropKey
  return { lexer.take token count with allowsKey := false }

/-- The number of flow collections inside one another beyond which nothing is read. -/
def maxDepth : Nat := 2000

/-- The start of a flow collection, which may be part of a key. -/
def openFlow (lexer : Lexer) (token : Token) : Except Failure Lexer := do
  if maxDepth < lexer.depth then impossible .tooDeep
  let lexer ← lexer.noteKey
  return { lexer.take token 1 with depth := lexer.depth + 1, allowsKey := true }

/-- The end of a flow collection. -/
def closeFlow (lexer : Lexer) (token : Token) : Except Failure Lexer := do
  let lexer ← lexer.dropKey
  return { lexer.take token 1 with depth := lexer.depth - 1, allowsKey := false }

/-- The mark between the items of a flow collection. -/
def flowEntry (lexer : Lexer) : Except Failure Lexer := do
  let lexer ← lexer.dropKey
  return { lexer.take .flowEntry 1 with allowsKey := true }

/-- The mark before an item of a block sequence. -/
def blockEntry (lexer : Lexer) : Except Failure Lexer := do
  -- Inside a flow collection the mark is let through here, and refused where the words are put together.
  if !lexer.inFlow && !lexer.allowsKey then mistake .token
  let lexer :=
    if lexer.inFlow then lexer
    else lexer.openBlock lexer.column .blockSequenceStart lexer.count
  -- A block scalar ends with its line, so a key can start after it.
  let lexer ← { lexer with allowsKey := true }.dropKey
  return lexer.take .blockEntry 1

/-- The mark before a key. -/
def explicitKey (lexer : Lexer) : Except Failure Lexer := do
  if !lexer.inFlow && !lexer.allowsKey then mistake .token
  let lexer :=
    if lexer.inFlow then lexer
    else lexer.openBlock lexer.column .blockMappingStart lexer.count
  let lexer ← { lexer with allowsKey := !lexer.inFlow }.dropKey
  return lexer.take .key 1

/-- The mark before a value, which makes a key of what may be one. -/
def value (lexer : Lexer) : Except Failure Lexer := do
  match lexer.possible.lookup lexer.depth with
  | some key =>
    -- Whatever stood before the colon is a key after all, and its mark is put in front of it.
    let possible := lexer.possible.filter fun entry => entry.1 != lexer.depth
    let marked := { lexer.insert key.position .key with possible, allowsKey := false }
    let opened :=
      if lexer.inFlow then marked
      else marked.openBlock key.start.column .blockMappingStart key.position
    return opened.take .value 1
  | none =>
    -- Without a key before it, the colon gives the value of an empty one.
    if !lexer.inFlow && !lexer.allowsKey then mistake .token
    let lexer :=
      if lexer.inFlow then lexer
      else lexer.openBlock lexer.column .blockMappingStart lexer.count
    return { lexer.take .value 1 with allowsKey := !lexer.inFlow }

/-- A word that may be a key or a part of one. -/
def inlineToken (lexer : Lexer) (token : Token) (count : Nat) : Except Failure Lexer := do
  let lexer ← lexer.noteKey
  return { lexer.take token count with allowsKey := false }

/-- A quoted scalar from after its opening quote on. -/
def quoted (lexer : Lexer) (quote : Char) (text : List Char) : Except Failure Lexer := do
  let (content, count) ← quotedText quote 1 .none text
  lexer.inlineToken (.scalar (String.ofList content) false) count

/-- A plain scalar. -/
def plain (lexer : Lexer) : Except Failure Lexer := do
  let lexer ← lexer.noteKey
  let scalar := plainScalar lexer.inFlow (lexer.indent + 1) ⟨[], 0, false⟩ lexer.cursor
  return { lexer.push (.scalar (Text.held (String.ofList scalar.text)) true) with
    cursor := scalar.cursor, allowsKey := scalar.isBroken }

/-- A block scalar from after its mark on. -/
def block (lexer : Lexer) (folded : Bool) (text : List Char) : Except Failure Lexer := do
  let lexer ← { lexer with allowsKey := true }.dropKey
  let (content, rest) ← blockScalar folded lexer.indent text
  return lexer.take (.scalar (Text.held (String.ofList content)) false) (lexer.countTo rest)

/-- Whether a plain scalar can start with a character before the given rest. -/
def startsPlain (lexer : Lexer) (c : Char) (rest : List Char) : Bool :=
  if isSpace c || isBreak c then false
  else if c == '-' || (!lexer.inFlow && (c == '?' || c == ':')) then !endsWord rest
  else !"-?:,[]\x7b\x7d#&*!|>\x27\"%@\x60".toList.contains c

/-- Reads the word that starts with a character, by that character and what follows it. -/
def readToken (lexer : Lexer) (c : Char) (rest : List Char) : Except Failure Lexer :=
  -- Directives and marks of documents are told by their place at the start of a line.
  let isFirst := lexer.cursor.column == 0
  if isFirst && c == '%' then do
    let (said, rest) ← directive rest
    lexer.topLevel (.directive said) (lexer.countTo rest)
  else if isFirst && startsMark '-' (c :: rest) then lexer.topLevel .documentStart 3
  else if isFirst && startsMark '.' (c :: rest) then lexer.topLevel .documentEnd 3
  else if c == '[' then lexer.openFlow .flowSequenceStart
  else if c == '\x7b' then lexer.openFlow .flowMappingStart
  else if c == ']' then lexer.closeFlow .flowSequenceEnd
  else if c == '\x7d' then lexer.closeFlow .flowMappingEnd
  else if c == ',' then lexer.flowEntry
  else if c == '-' && endsWord rest then lexer.blockEntry
  else if c == '?' && (lexer.inFlow || endsWord rest) then lexer.explicitKey
  else if c == ':' && (lexer.inFlow || endsWord rest) then lexer.value
  else if c == '*' then do
    let (name, rest) ← anchorName rest
    lexer.inlineToken (.reference name) (lexer.countTo rest)
  else if c == '&' then do
    let (name, rest) ← anchorName rest
    lexer.inlineToken (.anchor name) (lexer.countTo rest)
  else if c == '!' then do
    let (name, rest) ← tagName rest
    lexer.inlineToken (.tag name) (lexer.countTo rest)
  else if c == '|' && !lexer.inFlow then lexer.block false rest
  else if c == '>' && !lexer.inFlow then lexer.block true rest
  else if c == '\x27' || c == '"' then lexer.quoted c rest
  else if lexer.startsPlain c rest then lexer.plain
  else mistake .token

/-- Closes everything at the end of the text. -/
def finish (lexer : Lexer) : Except Failure Lexer := do
  let lexer ← (lexer.unwind (-1)).dropKey
  return lexer.push .streamEnd

/-- Goes on to the next word and closes the collections that it is not part of. -/
def approach (lexer : Lexer) : Except Failure Lexer := do
  let lexer ← lexer.skipGap.dropStale
  return lexer.unwind lexer.column

/-- The number of words of which it is settled what stands before them: a possible key may still get
its mark. -/
def settledCount (lexer : Lexer) : Nat :=
  lexer.possible.foldl (fun count entry => min count entry.2.position) lexer.count

/-- The words that are settled when the next one turns out to be malformed. -/
def settled (lexer : Lexer) : Lexer :=
  { lexer with
    tokens := lexer.tokens.drop (lexer.count - lexer.settledCount), count := lexer.settledCount }

/-- Reads the next word, or the end of the text, which leaves nothing to go on with. -/
def advance (lexer : Lexer) : Except Failure (Lexer × Bool) := do
  let lexer ← lexer.approach
  match lexer.cursor.rest with
  | [] => return (← lexer.finish, false)
  | c :: rest => return (← (← lexer.readToken c rest).dropStale, true)

/-- All words up to the end of the text or up to one that is malformed, of which there are no more than
the given number. -/
def run : Nat → Lexer → Lexer × Option Failure
  | 0, lexer => (lexer, some (.malformed .token))
  | most + 1, lexer =>
    -- The words before a mistake are kept, since one of them may be a mistake of its own.
    match lexer.advance with
    | .error failure => (lexer.settled, some failure)
    | .ok (finished, false) => (finished, none)
    | .ok (after, true) => run most after

end Lexer

/-- The words of a text, and the mistake that ends them if there is one. -/
def tokens (text : List Char) : List Token × Option Failure :=
  let start : Cursor := { rest := text }
  -- A byte order mark at the very start is no part of the text.
  let first := if text.head? == some '\ufeff' then start.next else start
  -- Every word takes at least one character.
  let (lexer, failure) := Lexer.run (text.length + 1) { cursor := first }
  (lexer.tokens.reverse, failure)

end TypedClient.Yaml
