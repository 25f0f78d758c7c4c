import TypedClient.Json.Numeral
import TypedClient.Number.Numeral
import TypedClient.Text.Search
import TypedClient.Value.Moment
import TypedClient.Yaml.Cursor
import TypedClient.Yaml.Tag

/-! What kind of scalar a text spells that names no kind. -/

namespace TypedClient.Yaml.Spelling

/-- The spellings of a word: in small letters, with a capital, and in capitals. -/
def variants (word : String) : List String :=
  [word, word.capitalize, word.toUpper]

/-- Whether a text is one of the spellings of some words. -/
def spells (words : List String) (text : String) : Bool :=
  words.any fun word => (variants word).contains text

/-- Whether a text is a word for a truth value. -/
def isBool (text : String) : Bool :=
  spells ["yes", "true", "on", "no", "false", "off"] text

/-- Whether a text is a word for null. -/
def isNull (text : String) : Bool :=
  text == "" || text == "~" || spells ["null"] text

/-- Whether a character is a digit below a base or a mark that groups digits. -/
def isDigitBelow (base : Nat) (c : Char) : Bool :=
  c == '_' || (Text.hexValue? c).any (· < base)

/-- Whether a text is a decimal number with grouping marks after its first digit. -/
def isGrouped (text : List Char) : Bool :=
  match text with
  | c :: rest => Json.isAsciiDigit c && rest.all (isDigitBelow 10)
  | [] => false

/-- Whether a text is a number below sixty of at most two digits. -/
def isSixtieth (text : List Char) : Bool :=
  match text with
  | [a] => Json.isAsciiDigit a
  | [a, b] => '0' ≤ a && a ≤ '5' && Json.isAsciiDigit b
  | _ => false

/-- Whether a text is a number to the base sixty, of at least two parts. -/
def isSixtieths (text : List Char) : Bool :=
  match Text.splitOn ':' text with
  | first :: others => !others.isEmpty && isGrouped first && others.all isSixtieth
  | [] => false

/-- Whether a text is an unsigned integer. -/
def isNatural (text : List Char) : Bool :=
  match text with
  | '0' :: 'b' :: rest => !rest.isEmpty && rest.all (isDigitBelow 2)
  | '0' :: 'x' :: rest => !rest.isEmpty && rest.all (isDigitBelow 16)
  | '0' :: rest => rest.all (isDigitBelow 8)
  | _ => isGrouped text || isSixtieths text

/-- Whether a text is an integer. -/
def isInt (text : List Char) : Bool :=
  isNatural (Numeral.signed text).2

/-- Whether a text is empty or a power of ten, whose sign must be there. -/
def isExponent (text : List Char) : Bool :=
  match text with
  | [] => true
  | letter :: sign :: digits =>
    (letter == 'e' || letter == 'E') && (sign == '-' || sign == '+') && !digits.isEmpty
      && digits.all Json.isAsciiDigit
  | _ => false

/-- Whether a text is an unsigned number with a point after its whole part. -/
def isPointed (text : List Char) : Bool :=
  let whole := text.takeWhile (· != '.')
  match text.drop whole.length with
  | _ :: after =>
    let rest := after.dropWhile (isDigitBelow 10)
    (isGrouped whole && isExponent rest) || (isSixtieths whole && rest.isEmpty)
  | [] => false

/-- Whether a text is a number that starts with its point. -/
def isFraction (text : List Char) : Bool :=
  match text with
  | '.' :: after =>
    isGrouped (after.takeWhile (isDigitBelow 10)) && isExponent (after.dropWhile (isDigitBelow 10))
  | _ => false

/-- Whether a text is a floating-point number. -/
def isFloat (text : List Char) : Bool :=
  let unsigned := (Numeral.signed text).2
  [".inf", ".Inf", ".INF"].contains (String.ofList unsigned)
    || [".nan", ".NaN", ".NAN"].contains (String.ofList text)
    || isPointed unsigned || isFraction text

/-- Between a least and a most number of digits at the start of a text, with the rest. -/
def someDigits? (least most : Nat) (text : List Char) : Option (Nat × List Char) :=
  let digits := (text.take most).takeWhile Json.isAsciiDigit
  if digits.length < least then none
  else some (Text.decimalNumber digits, text.drop digits.length)

/-- The distance from universal time that ends a text, if one does. -/
def offset? (text : List Char) : Option (Option Int) :=
  match text with
  | [] => some none
  | ['Z'] => some (some 0)
  | sign :: rest => do
    if sign != '-' && sign != '+' then none
    else
      let (hours, rest) ← someDigits? 1 2 rest
      let (minutes, rest) ←
        match rest with
        | ':' :: digits => someDigits? 2 2 digits
        | _ => some (0, rest)
      if !rest.isEmpty then none
      else
        let size : Int := 60 * hours + minutes
        some (some (if sign == '-' then -size else size))

/-- The time of day that ends a text. -/
def timeOfDay? (text : List Char) : Option TimeOfDay := do
  let (hour, rest) ← someDigits? 1 2 text
  let (minute, rest) ← someDigits? 2 2 (← Text.afterHead? [':'] rest)
  let (second, rest) ← someDigits? 2 2 (← Text.afterHead? [':'] rest)
  let (places, rest) :=
    match rest with
    | '.' :: after => Json.leadingDigits after
    | _ => ([], rest)
  -- Six places are kept, and missing ones count as zero.
  let microsecond := Text.decimalNumber ((places ++ "000000".toList).take 6)
  let offset ← offset? (rest.dropWhile isSpace)
  if rest.all isSpace && !rest.isEmpty then none
  else some { hour, minute, second, microsecond, offset }

/-- The date, with or without a time of day, that a text has the form of. -/
def moment? (text : List Char) : Option Moment := do
  let (year, rest) ← someDigits? 4 4 text
  let (month, rest) ← someDigits? 1 2 (← Text.afterHead? ['-'] rest)
  let (day, rest) ← someDigits? 1 2 (← Text.afterHead? ['-'] rest)
  let date : Moment := { year, month, day, time := none }
  match rest with
  | [] => return date
  | c :: rest =>
    if c == 'T' || c == 't' then return { date with time := ← timeOfDay? rest }
    else if isSpace c then return { date with time := ← timeOfDay? (rest.dropWhile isSpace) }
    else none

/-- Whether a text is a moment; a date alone has two digits for the month and for the day. -/
def isMoment (text : List Char) : Bool :=
  (moment? text).any fun moment => moment.time.isSome || text.length == 10

/-- A text without a line feed at its end, which makes no difference to its form. -/
def withoutFinalBreak (text : List Char) : List Char :=
  if text.getLast? == some '\n' then text.dropLast else text

/-- The kind that a text spells. -/
def tag (text : String) : Tag :=
  let cs := withoutFinalBreak text.toList
  let word := String.ofList cs
  if text == "\n" then .text
  else if isNull word then .null
  else if isBool word then .bool
  else if word == "<<" then .merge
  else if word == "=" then .default
  else if ["!", "&", "*"].contains word then .unknown
  else if isFloat cs then .float
  else if isInt cs then .int
  else if isMoment cs then .timestamp
  else .text

end TypedClient.Yaml.Spelling
