import TypedClient.Text.Half
import TypedClient.Text.Percent
import TypedClient.Yaml.Cursor

/-! Quoted scalars of a YAML text, which may run over several lines. -/

namespace TypedClient.Yaml

/-- The blanks that have been read since the last character of a quoted text. -/
inductive Gap
  /-- Blanks on one line. -/
  | spaces (blanks : List Char)
  /-- A line break, folded unless it was escaped, and the empty lines after it. -/
  | lines (folded : Option Char) (others : List Char)

namespace Gap

/-- No blanks at all. -/
def none : Gap := spaces []

/-- What a gap contributes to the text: a single line break becomes a space. -/
def text : Gap → List Char
  | spaces blanks => blanks
  | lines (some first) others =>
    if first != '\n' then first :: others else if others.isEmpty then [' '] else others
  | lines Option.none others => others

/-- The gap with a further blank on its line; blanks at the start of a line do not count. -/
def addSpace (c : Char) : Gap → Gap
  | spaces blanks => spaces (blanks ++ [c])
  | gap => gap

/-- The gap with a further line break. -/
def addBreak (c : Char) : Gap → Gap
  | spaces _ => lines (some (breakText c)) []
  | lines folded others => lines folded (others ++ [breakText c])

end Gap

/-- The character that a letter denotes after a backslash. -/
def namedEscape? (c : Char) : Option Char :=
  [('0', '\x00'), ('a', '\x07'), ('b', '\x08'), ('t', '\t'), ('\t', '\t'), ('n', '\n'),
   ('v', '\x0b'), ('f', '\x0c'), ('r', '\r'), ('e', '\x1b'), (' ', ' '), ('"', '"'), ('\\', '\\'),
   ('/', '/'), ('N', '\x85'), ('_', '\xa0'), ('L', '\u2028'), ('P', '\u2029')].lookup c

/-- The number of hexadecimal digits that follow a letter after a backslash. -/
def escapeWidth? (c : Char) : Option Nat :=
  [('x', 2), ('u', 4), ('U', 8)].lookup c

/-- The number that hexadecimal digits denote. -/
def hexNumber? (digits : List Char) : Option Nat :=
  digits.foldlM (fun n c => (Text.hexValue? c).map (16 * n + ·)) 0

/-- What a number denotes, which may lie beyond all characters, or beyond all codes. -/
def numbered (code : Nat) : Except Failure (List Char) :=
  if code ≤ 0x10ffff then .ok (Text.ofCode code)
  else impossible (if code < 0x80000000 then .notANumber else .tooLarge)

/-- What a number of hexadecimal digits at the start of a text denote: a character or a half alone. -/
def numberedEscape (width : Nat) (text : List Char) : Except Failure (List Char) :=
  let digits := text.take width
  match if digits.length = width then hexNumber? digits else none with
  | some code => numbered code
  | none => mistake .token

/-- The text up to the closing quote, with the number of characters up to after that quote, to which the
given number is added. -/
def quotedText (quote : Char) (count : Nat) (gap : Gap) (text : List Char) :
    Except Failure (List Char × Nat) :=
  match text with
  | [] => mistake .token
  | c :: rest =>
    if isSpace c then quotedText quote (count + 1) (gap.addSpace c) rest
    else if isBreak c then
      if startsDocumentMark rest then mistake .token
      else quotedText quote (count + 1) (gap.addBreak c) rest
    else if c == quote then
      -- Between single quotes, two of them in a row denote one.
      if quote == '\x27' && rest.head? == some '\x27' then do
        let (more, count) ← quotedText quote (count + 2) .none (rest.drop 1)
        return (gap.text ++ quote :: more, count)
      else .ok (gap.text, count + 1)
    else if quote == '"' && c == '\\' then
      match rest with
      | [] => mistake .token
      | letter :: digits =>
        if isBreak letter then
          if startsDocumentMark digits then mistake .token
          else do
            let (more, count) ← quotedText quote (count + 2) (.lines none []) digits
            return (gap.text ++ more, count)
        else
          match namedEscape? letter, escapeWidth? letter with
          | some denoted, _ => do
            let (more, count) ← quotedText quote (count + 2) .none digits
            return (gap.text ++ denoted :: more, count)
          | none, some width => do
            let denoted ← numberedEscape width digits
            let (more, count) ← quotedText quote (count + 2 + width) .none (digits.drop width)
            return (gap.text ++ denoted ++ more, count)
          | none, none => mistake .token
    else do
      let (more, count) ← quotedText quote (count + 1) .none rest
      return (gap.text ++ Text.ofCode c.toNat ++ more, count)
termination_by text.length
decreasing_by all_goals simp only [List.length_cons, List.length_drop]; omega

end TypedClient.Yaml
