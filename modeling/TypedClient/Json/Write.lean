import TypedClient.Value.Access
import TypedClient.Value.Display

/-! The text of a value as JSON, on one line and in ASCII. -/

namespace TypedClient.Json

/-- The letter that denotes a character after a backslash. -/
def escapeLetter? (c : Char) : Option Char :=
  [('"', '"'), ('\\', '\\'), ('\n', 'n'), ('\r', 'r'), ('\t', 't'), ('\x08', 'b'), ('\x0c', 'f')].lookup c

/-- A code inside a string: a visible ASCII character as it is, any other one escaped. -/
def codeText (code : Nat) : List Char :=
  match escapeLetter? (Char.ofNat code) with
  | some letter => ['\\', letter]
  | none =>
    if 0x20 ≤ code && code < 0x7f then [Char.ofNat code]
    else (Text.units code).flatMap fun unit => '\\' :: 'u' :: Text.hexDigits 4 unit

/-- A text as a string. -/
def quoted (s : String) : String :=
  String.ofList ('"' :: (Text.codes s.toList).flatMap codeText ++ ['"'])

/--
A scalar; numbers that JSON lacks have names, and moments and bytes cannot be written.

An integer is written with all its digits: the limit on digits that are read does not hold for writing.
-/
def scalarText : Scalar → Outcome String
  | .null => .ok "null"
  | .bool b => .ok (if b then "true" else "false")
  | .int n => .ok (toString n)
  | .float ⟨.nan, _⟩ => .ok "NaN"
  | .float ⟨.infinite negative, _⟩ => .ok (if negative then "-Infinity" else "Infinity")
  | .float x => .ok x.text
  | .text s => .ok (quoted s)
  | .moment _ | .bytes _ => misfit .wrongKind

/-- The key of a member, which is always a string. -/
def keyText : Scalar → Outcome String
  | .text s => .ok (quoted s)
  | key => return quoted (← scalarText key)

mutual

/-- The text of a value; a pair counts as a list, and sets cannot be written. -/
def write : Value → Outcome String
  | .scalar s => scalarText s
  | .list items => return "[" ++ ", ".intercalate (← writeItems items) ++ "]"
  | .map members => return "\x7b" ++ ", ".intercalate (← writeMembers members) ++ "\x7d"
  | .set _ => misfit .wrongKind
  | .pair key value => return "[" ++ (← write key) ++ ", " ++ (← write value) ++ "]"

/-- The texts of the items of a list. -/
def writeItems : List Value → Outcome (List String)
  | [] => .ok []
  | v :: rest => return (← write v) :: (← writeItems rest)

/-- The texts of the members of a map. -/
def writeMembers : Members → Outcome (List String)
  | [] => .ok []
  | (key, v) :: rest => return ((← keyText key) ++ ": " ++ (← write v)) :: (← writeMembers rest)

end

end TypedClient.Json
