/-! String literals on a single line: a quote on either side, and escapes for what may not stand inside. -/

namespace TypedClient.Text

/-- The escape of a character inside a literal, without the backslash, if it needs one. -/
def escapeMark? (quote : List Char) (c : Char) : Option (List Char) :=
  if quote == [c] then some quote
  else if c == '\\' then some ['\\']
  else if c == '\n' then some ['n']
  else if c == '\r' then some ['r']
  else if c == '\t' then some ['t']
  else if c == '\u2028' then some ['u', '2', '0', '2', '8']
  else if c == '\u2029' then some ['u', '2', '0', '2', '9']
  else none

/-- A character as it stands inside a literal. -/
def escaped (quote : List Char) (c : Char) : List Char :=
  match escapeMark? quote c with
  | some mark => '\\' :: mark
  | none => [c]

/-- The string literal that denotes a text. -/
def quoted (quote cs : List Char) : List Char :=
  quote ++ cs.flatMap (escaped quote) ++ quote

end TypedClient.Text

namespace TypedClient

/-- The string literal that denotes a text, between quotes of choice. -/
def quoteText (quote s : String) : String :=
  String.ofList (Text.quoted quote.toList s.toList)

end TypedClient
