import TypedClient.Yaml.Failure

/-! A place in a YAML text from which reading goes on. -/

namespace TypedClient.Yaml

/-- What is left of a text, and where in the text that starts; line and column count from zero. -/
structure Cursor where
  rest : List Char
  index : Nat := 0
  line : Nat := 0
  column : Nat := 0

/-- Whether a character ends a line. -/
def isBreak (c : Char) : Bool :=
  c ∈ ['\n', '\x85', '\u2028', '\u2029']

/-- Whether a character stands between words on a line. -/
def isSpace (c : Char) : Bool :=
  c == ' ' || c == '\t'

/-- The character that a line break contributes to a text. -/
def breakText (c : Char) : Char :=
  if c == '\x85' then '\n' else c

/-- Whether what comes next ends a word: a space, a line break or the end of the text. -/
def endsWord (text : List Char) : Bool :=
  match text with
  | [] => true
  | c :: _ => isSpace c || isBreak c

/-- Whether a line starts with three of a character as a word of their own. -/
def startsMark (mark : Char) (text : List Char) : Bool :=
  match text with
  | a :: b :: c :: rest => a == mark && b == mark && c == mark && endsWord rest
  | _ => false

/-- Whether a line starts with the mark that begins or ends a document. -/
def startsDocumentMark (text : List Char) : Bool :=
  startsMark '-' text || startsMark '.' text

namespace Cursor

/-- The place after the next character. -/
def next (cursor : Cursor) : Cursor :=
  match cursor.rest with
  | [] => cursor
  | c :: rest =>
    if isBreak c then
      { rest, index := cursor.index + 1, line := cursor.line + 1, column := 0 }
    else
      -- A byte order mark takes up no column.
      { rest, index := cursor.index + 1, line := cursor.line
        column := if c == '\ufeff' then cursor.column else cursor.column + 1 }

/-- The place a number of characters further on. -/
def forward : Nat → Cursor → Cursor
  | 0, cursor => cursor
  | n + 1, cursor => forward n cursor.next

end Cursor

end TypedClient.Yaml
