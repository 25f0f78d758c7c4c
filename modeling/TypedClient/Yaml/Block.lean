import TypedClient.Yaml.Cursor

/-! Block scalars of a YAML text, whose lines are told by their indentation. -/

namespace TypedClient.Yaml

/-- What is kept of the line breaks at the end of a block scalar. -/
inductive Chomping
  /-- None of them. -/
  | strip
  /-- The one that ends the last line. -/
  | clip
  /-- All of them. -/
  | keep

/-- What the first line of a block scalar says about it. -/
structure BlockHeader where
  chomping : Chomping := .clip
  /-- The indentation relative to what holds the scalar, if it is given. -/
  increment : Option Nat := none

namespace BlockHeader

/-- The header with the chomping that a sign stands for. -/
def readSign (header : BlockHeader) : List Char → BlockHeader × List Char
  | '+' :: rest => ({ header with chomping := .keep }, rest)
  | '-' :: rest => ({ header with chomping := .strip }, rest)
  | text => (header, text)

/-- The header with the indentation that a digit stands for, which must not be zero. -/
def readDigit (header : BlockHeader) (text : List Char) :
    Except Failure (BlockHeader × List Char) :=
  match text with
  | c :: rest =>
    if c == '0' then mistake .token
    else if '1' ≤ c && c ≤ '9' then
      .ok ({ header with increment := some (c.toNat - '0'.toNat) }, rest)
    else .ok (header, text)
  | [] => .ok (header, text)

/-- The header at the start of a text: a sign and a digit in either order. -/
def read (text : List Char) : Except Failure (BlockHeader × List Char) := do
  match readSign {} text with
  | (header, rest) =>
    -- The sign and the digit may come in either order, and each of them may be missing.
    if rest.length < text.length then readDigit header rest
    else
      let (header, rest) ← readDigit header text
      return if rest.length < text.length then readSign header rest else (header, rest)

end BlockHeader

/-- The rest of a line on which only blanks and a comment may stand, up to the next line. -/
def afterIgnoredLine (text : List Char) : Except Failure (List Char) :=
  match text.dropWhile (· == ' ') with
  | [] => .ok []
  | c :: rest =>
    if isBreak c then .ok rest
    else if c == '#' then .ok ((rest.dropWhile fun c => !isBreak c).drop 1)
    else mistake .token

/-- Empty lines, and the spaces of the line after them up to an indentation. -/
structure EmptyLines where
  breaks : List Char
  /-- The column that is reached. -/
  column : Nat
  /-- The largest column that any of the spaces reaches. -/
  deepest : Nat
  rest : List Char

/-- The empty lines at the start of a text, without a limit if none is given. -/
def emptyLines (limit : Option Nat) (column deepest : Nat) : List Char → EmptyLines
  | [] => ⟨[], column, deepest, []⟩
  | c :: rest =>
    if c == ' ' && limit.all (column < ·) then emptyLines limit (column + 1) (max deepest (column + 1)) rest
    else if isBreak c then
      -- A line break starts the next line at its first column.
      let lines := emptyLines limit 0 deepest rest
      { lines with breaks := breakText c :: lines.breaks }
    else ⟨[], column, deepest, c :: rest⟩

theorem length_emptyLines_le (limit : Option Nat) (column deepest : Nat) (text : List Char) :
    (emptyLines limit column deepest text).rest.length ≤ text.length := by
  induction text generalizing column deepest with
  | nil => exact Nat.le_refl _
  | cons c rest ih =>
    rw [emptyLines]
    split
    · exact Nat.le_succ_of_le (ih _ _)
    · split
      · exact Nat.le_succ_of_le (ih _ _)
      · exact Nat.le_refl _

/-- The text of a block scalar, the line breaks at its end apart. -/
structure BlockText where
  text : List Char
  lastBreak : List Char
  others : List Char
  rest : List Char

/-- Whether a line starts with a blank, which keeps it from being folded. -/
def startsBlank (text : List Char) : Bool :=
  match text with
  | c :: _ => isSpace c
  | [] => false

/-- The text from the first character of a line on, for lines of the given indentation. -/
def blockText (folded : Bool) (indent : Nat) (text : List Char) : BlockText :=
  let line := text.takeWhile fun c => !isBreak c
  match after : text.dropWhile fun c => !isBreak c with
  | [] => ⟨line, [], [], []⟩
  | c :: rest =>
    have shorter : rest.length < text.length := by
      have := (List.dropWhile_sublist (l := text) fun c => !isBreak c).length_le
      rw [after, List.length_cons] at this
      omega
    let lines := emptyLines (some indent) 0 0 rest
    have := length_emptyLines_le (some indent) 0 0 rest
    if lines.column == indent && !lines.rest.isEmpty then
      -- Lines that start with a blank keep the line breaks around them.
      let isFolded :=
        folded && breakText c == '\n' && !startsBlank text && !startsBlank lines.rest
      let join := if isFolded then (if lines.breaks.isEmpty then [' '] else []) else [breakText c]
      let more := blockText folded indent lines.rest
      { more with text := line ++ join ++ lines.breaks ++ more.text }
    else ⟨line, [breakText c], lines.breaks, lines.rest⟩
termination_by text.length

/-- The end of a text as its chomping wants it. -/
def chomped (chomping : Chomping) (lastBreak others : List Char) : List Char :=
  match chomping with
  | .strip => []
  | .clip => lastBreak
  | .keep => lastBreak ++ others

/-- The block scalar from after its mark on, inside a collection of the given indentation. -/
def blockScalar (folded : Bool) (outer : Int) (text : List Char) :
    Except Failure (List Char × List Char) := do
  let (header, rest) ← BlockHeader.read text
  if !(endsWord rest && rest.head? != some '\t') then mistake .token
  let start ← afterIgnoredLine rest
  -- The text stands deeper than what holds it, and at the first column at least.
  let least := (max (outer + 1) 1).toNat
  let (lines, indent) := match header.increment with
    | none =>
      let lines := emptyLines none 0 0 start
      -- The deepest of the empty lines may be the first sign of the indentation.
      (lines, max least lines.deepest)
    | some increment =>
      let indent := least + increment - 1
      (emptyLines (some indent) 0 0 start, indent)
  if lines.column == indent && !lines.rest.isEmpty then
    let body := blockText folded indent lines.rest
    return (lines.breaks ++ body.text ++ chomped header.chomping body.lastBreak body.others, body.rest)
  else return (chomped header.chomping [] lines.breaks, lines.rest)

end TypedClient.Yaml
