import TypedClient.Text.Half
import TypedClient.Text.Printable
import TypedClient.Value.Basic

/-! The text of a value as messages quote it and as it is inserted into other texts. -/

namespace TypedClient

namespace Text

/-- A hexadecimal digit in lower case. -/
def hexDigit (n : Nat) : Char :=
  if n < 10 then Char.ofNat ('0'.toNat + n) else Char.ofNat ('a'.toNat + (n - 10))

/-- The last `width` hexadecimal digits of a number. -/
def hexDigits : Nat → Nat → List Char
  | 0, _ => []
  | width + 1, n => hexDigits width (n / 16) ++ [hexDigit (n % 16)]

/-- The escape of a code point, as short as it allows. -/
def codeEscape (code : Nat) : List Char :=
  if code < 0x100 then '\\' :: 'x' :: hexDigits 2 code
  else if code < 0x10000 then '\\' :: 'u' :: hexDigits 4 code
  else '\\' :: 'U' :: hexDigits 8 code

/-- A character inside a quoted text. -/
def shown (quote c : Char) : List Char :=
  if c == quote || c == '\\' then ['\\', c]
  else if c == '\n' then ['\\', 'n']
  else if c == '\r' then ['\\', 'r']
  else if c == '\t' then ['\\', 't']
  else if isPrintable c then [c]
  else codeEscape c.toNat

/-- A code inside a quoted text; half of a pair is escaped. -/
def shownCode (quote : Char) (code : Nat) : List Char :=
  if isHalf code then codeEscape code else shown quote (Char.ofNat code)

/-- The quote around a text: a single one unless the text holds a single but no double quote. -/
def quoteFor (cs : List Char) : Char :=
  if cs.contains '\x27' && !cs.contains '"' then '"' else '\x27'

/-- A text in quotes. -/
def inspected (cs : List Char) : List Char :=
  quoteFor cs :: (codes cs).flatMap (shownCode (quoteFor cs)) ++ [quoteFor cs]

/-- Bytes in quotes, shown as the characters of their codes as far as those are ASCII. -/
def inspectedBytes (content : List UInt8) : List Char :=
  let cs := content.map fun byte => Char.ofNat byte.toNat
  let inner := cs.flatMap fun c => if c.toNat < 0x7f then shown (quoteFor cs) c else codeEscape c.toNat
  'b' :: quoteFor cs :: inner ++ [quoteFor cs]

end Text

/-- A text in quotes, with everything escaped that has no visible form. -/
def inspectText (s : String) : String :=
  String.ofList (Text.inspected s.toList)

/-- A scalar as messages quote it; unlike the reading of integers, writing them has no limit to their digits. -/
def Scalar.inspect : Scalar → String
  | null => "None"
  | bool b => if b then "True" else "False"
  | int n => toString n
  | float x => x.text
  | text s => inspectText s
  | moment m => m.call
  | bytes content => String.ofList (Text.inspectedBytes content)

/-- A scalar as it is inserted into a text. -/
def Scalar.display : Scalar → String
  | text s => s
  | moment m => m.standardText " "
  | other => other.inspect

namespace Value

mutual

/-- A value as messages quote it. -/
def inspect : Value → String
  | scalar s => s.inspect
  | list items => "[" ++ ", ".intercalate (inspectItems items) ++ "]"
  | map members => "\x7b" ++ ", ".intercalate (inspectMembers members) ++ "\x7d"
  | set [] => "set()"
  | set items => "\x7b" ++ ", ".intercalate (items.map Scalar.inspect) ++ "\x7d"
  | pair key value => "(" ++ key.inspect ++ ", " ++ value.inspect ++ ")"

/-- The items of a list as messages quote them. -/
def inspectItems : List Value → List String
  | [] => []
  | v :: rest => v.inspect :: inspectItems rest

/-- The members of a map as messages quote them. -/
def inspectMembers : Members → List String
  | [] => []
  | (k, v) :: rest => (k.inspect ++ ": " ++ v.inspect) :: inspectMembers rest

end

/-- A value as it is inserted into a text: a text as it is, all else as messages quote it. -/
def display : Value → String
  | scalar s => s.display
  | other => other.inspect

end Value

end TypedClient
