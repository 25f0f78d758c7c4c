import TypedClient.Json.Numeral
import TypedClient.Text.Digit
import TypedClient.Text.Percent
import TypedClient.Yaml.Cursor

/-! The words of a YAML text: marks of structure, properties of nodes and scalars. -/

namespace TypedClient.Yaml

/-- The name of a kind of node as it is written: the handle of a prefix, if there is one, and what stands
after the prefix. -/
structure TagName where
  handle : Option String
  rest : String
  deriving DecidableEq, Repr

/-- What a directive says. -/
inductive Directive
  /-- The major version of the text. -/
  | version (major : Nat)
  /-- The prefix that a handle stands for. -/
  | handle (name address : String)
  /-- Something that makes no difference. -/
  | other
  deriving DecidableEq, Repr

/-- A word of a YAML text. -/
inductive Token
  | directive (directive : Directive)
  | documentStart
  | documentEnd
  | blockSequenceStart
  | blockMappingStart
  | blockEnd
  | flowSequenceStart
  | flowSequenceEnd
  | flowMappingStart
  | flowMappingEnd
  | blockEntry
  | flowEntry
  | key
  | value
  | reference (name : String)
  | anchor (name : String)
  | tag (name : TagName)
  | scalar (text : String) (isPlain : Bool)
  | streamEnd
  deriving DecidableEq, Repr

/-- Whether a character may be part of a name or of an address. -/
def isNameChar (c : Char) : Bool :=
  ('0' ≤ c && c ≤ '9') || ('a' ≤ c && c ≤ 'z') || ('A' ≤ c && c ≤ 'Z') || c == '-' || c == '_'

/-- Whether a character may be part of the address of a kind. -/
def isAddressChar (c : Char) : Bool :=
  isNameChar c || c ∈ ";/?:@&=+$,_.!~*\x27()[]%".toList

/-- Whether what comes next ends a word of which a tab is no end. -/
def endsLineWord (text : List Char) : Bool :=
  endsWord text && text.head? != some '\t'

/-- The name of an anchor, with what follows it. -/
def anchorName (text : List Char) : Except Failure (String × List Char) :=
  let name := text.takeWhile isNameChar
  let rest := text.drop name.length
  let isEnded := endsWord rest || rest.head?.any (· ∈ "?:,]\x7d%@\x60".toList)
  if name.isEmpty || !isEnded then mistake .token else .ok (String.ofList name, rest)

/-- The bytes of a text in which they may be written as two hexadecimal digits after a percent sign. -/
def addressBytes? (text : List Char) : Option (List UInt8) :=
  match text with
  | [] => some []
  | '%' :: high :: low :: rest => do
    let byte ← Text.hexByte? high low
    return UInt8.ofNat byte :: (← addressBytes? rest)
  | c :: rest => if c == '%' then none else (addressBytes? rest).map (UInt8.ofNat c.toNat :: ·)

/-- The address at the start of a text, with what follows it. -/
def address (text : List Char) : Except Failure (String × List Char) :=
  let written := text.takeWhile isAddressChar
  if written.isEmpty then mistake .token
  else
    match (addressBytes? written).bind fun bytes => String.fromUTF8? ⟨bytes.toArray⟩ with
    | some address => .ok (address, text.drop written.length)
    | none => mistake .token

/-- The handle that ends with an exclamation mark, from after its first one on, with what follows it. -/
def handle (text : List Char) : Except Failure (String × List Char) :=
  let name := text.takeWhile isNameChar
  match text.drop name.length with
  | '!' :: rest => .ok (String.ofList ('!' :: name ++ ['!']), rest)
  | _ => mistake .token

/-- The address between angle brackets, from after the first one on, with what follows it. -/
def bracketed (text : List Char) : Except Failure (TagName × List Char) := do
  let (address, after) ← address text
  match after with
  | '>' :: rest => return (⟨none, address⟩, rest)
  | _ => mistake .token

/-- The kind that is named from after an exclamation mark on, with what follows it. -/
def tagName (text : List Char) : Except Failure (TagName × List Char) := do
  let (name, rest) ←
    match text with
    | '<' :: rest => bracketed rest
    | _ =>
      if endsWord text then pure (⟨none, "!"⟩, text)
      else
        -- A second exclamation mark in the word ends a handle; the first one alone is a handle too.
        let word := text.takeWhile fun c => c != ' ' && !isBreak c
        let (handle, rest) ← if word.contains '!' then handle text else pure ("!", text)
        let (address, rest) ← address rest
        pure (⟨some handle, address⟩, rest)
  if !endsLineWord rest then mistake .token
  return (name, rest)

/-- What follows the rest of a line on which nothing but spaces and a comment may stand. -/
def lineEnd (text : List Char) : Except Failure (List Char) :=
  let visible := text.dropWhile (· == ' ')
  let rest :=
    if visible.head? == some '#' then visible.dropWhile fun c => !isBreak c else visible
  match rest with
  | [] => .ok []
  | c :: rest => if isBreak c then .ok rest else mistake .token

/-- A part of a version at the start of a text, with what follows it. -/
def versionPart (text : List Char) : Except Failure (Nat × List Char) :=
  let digits := text.takeWhile Json.isAsciiDigit
  if digits.isEmpty then mistake .token
  else
    match Text.decimalNumber? digits with
    | some number => .ok (number, text.drop digits.length)
    | none => impossible .notANumber

/-- The version that a directive says the text is of, with what follows it. -/
def version (text : List Char) : Except Failure (Directive × List Char) := do
  let (major, rest) ← versionPart (text.dropWhile (· == ' '))
  match rest with
  | '.' :: rest =>
    let (_, rest) ← versionPart rest
    if !endsLineWord rest then mistake .token
    return (.version major, rest)
  | _ => mistake .token

/-- The handle that a directive declares, with its prefix and what follows them. -/
def declaredHandle (text : List Char) : Except Failure (Directive × List Char) := do
  match text.dropWhile (· == ' ') with
  | '!' :: rest =>
    let (handle, rest) ← if rest.head? == some ' ' then pure ("!", rest) else handle rest
    if rest.head? != some ' ' then mistake .token
    let (address, rest) ← address (rest.dropWhile (· == ' '))
    if !endsLineWord rest then mistake .token
    return (.handle handle address, rest)
  | _ => mistake .token

/-- What a directive says, from after its mark on, with what follows its line. -/
def directive (text : List Char) : Except Failure (Directive × List Char) := do
  let name := text.takeWhile isNameChar
  let rest := text.drop name.length
  if name.isEmpty || !endsLineWord rest then mistake .token
  let (said, rest) ←
    if name == "YAML".toList then version rest
    else if name == "TAG".toList then declaredHandle rest
    else pure (.other, rest.dropWhile fun c => !isBreak c)
  return (said, ← lineEnd rest)

end TypedClient.Yaml
