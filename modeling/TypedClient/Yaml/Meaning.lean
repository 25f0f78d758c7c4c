import TypedClient.Text.Base64
import TypedClient.Value.Basic
import TypedClient.Yaml.Failure
import TypedClient.Yaml.Spelling

/-! The value of a scalar, given its kind; a kind takes more spellings than those that tell it. -/

namespace TypedClient.Yaml.Meaning

/-- The value that there is, or the lack of a number. -/
def number {α : Type} : Option α → Except Failure α
  | some x => .ok x
  | none => impossible .notANumber

/-- A number without the marks that group its digits, which must have a first character. -/
def ungrouped (text : List Char) : Except Failure (List Char) :=
  match text.filter (· != '_') with
  | [] => impossible .outOfRange
  | cs => .ok cs

/-- The truth value that a word denotes, in letters of either case. -/
def bool? (text : String) : Option Bool :=
  [("yes", true), ("true", true), ("on", true), ("no", false), ("false", false), ("off", false)].lookup
    text.toLower

/-- The integer whose parts to the base sixty a colon separates. -/
def sixtieths (text : List Char) : Except Failure Int := do
  let parts ← (Text.splitOn ':' text).mapM fun part => number (Numeral.integer? 10 part)
  return parts.foldl (fun n part => 60 * n + part) 0

/-- The integer that an unsigned text denotes, to the base that its start tells. -/
def unsignedInt (text : List Char) : Except Failure Int :=
  match text with
  | [] => impossible .outOfRange
  | ['0'] => .ok 0
  | '0' :: 'b' :: digits => number (Numeral.integer? 2 digits)
  | '0' :: 'x' :: digits => number (Numeral.integer? 16 digits)
  | '0' :: _ => number (Numeral.integer? 8 text)
  | _ => if text.contains ':' then sixtieths text else number (Numeral.integer? 10 text)

/-- The integer that a text denotes. -/
def int (text : List Char) : Except Failure Int := do
  let (negative, unsigned) := Numeral.signed (← ungrouped text)
  let size ← unsignedInt unsigned
  return if negative then -size else size

/-- The sum of parts, the last of them first, each of which counts sixty times as much as the one before. -/
def sixtiethSum (parts : List Double) : Except Failure Double := do
  let (sum, _) ← parts.foldlM (fun (sum, base) part =>
    match Double.ofNat? base with
    | some factor => .ok (sum.add (part.mul factor), 60 * base)
    | none => impossible .tooLarge) (Double.ofInt 0, 1)
  return sum

/-- The floating-point number that an unsigned text denotes. -/
def unsignedFloat (text : List Char) : Except Failure Double := do
  if text == ".inf".toList then return .infinite false
  else if text == ".nan".toList then return .nan
  else if text.contains ':' then
    let parts ← (Text.splitOn ':' text).mapM fun part => number (Numeral.real? part)
    sixtiethSum parts.reverse
  else number (Numeral.real? text)

/-- The floating-point number that a text denotes. -/
def float (text : List Char) : Except Failure Double := do
  let (negative, unsigned) := Numeral.signed ((← ungrouped text).map Char.toLower)
  let size ← unsignedFloat unsigned
  return if negative then size.negate else size

/-- The moment that a text denotes, if it has the form of one. -/
def moment (text : List Char) : Except Failure Moment :=
  match Spelling.moment? (Spelling.withoutFinalBreak text) with
  | some moment => if moment.isValid then .ok moment else impossible .notANumber
  | none => impossible .notSupported

/-- The bytes that a text denotes, which must be ASCII. -/
def bytes (text : List Char) : Except Failure (List UInt8) :=
  match if text.all fun c => c.toNat < 0x80 then Text.base64? text else none with
  | some content => .ok content
  | none => mistake .value

/-- The value of a scalar of the given kind. -/
def scalar (tag : Tag) (text : String) : Except Failure Scalar :=
  match tag with
  | .null => .ok .null
  | .text => .ok (.text text)
  | .bool =>
    match bool? text with
    | some b => .ok (.bool b)
    | none => impossible .missingKey
  | .int => return .int (← int text.toList)
  | .float => return .float (← float text.toList)
  | .timestamp => return .moment (← moment text.toList)
  | .binary => return .bytes (← bytes text.toList)
  | _ => mistake .value

end TypedClient.Yaml.Meaning
