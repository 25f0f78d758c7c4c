import TypedClient.Number.Double
import TypedClient.Text.Blank
import TypedClient.Text.Digit
import TypedClient.Text.Percent

/-! Reading numbers leniently: in the digits of any script, with blanks around them. -/

namespace TypedClient.Numeral

/-- A character as it counts in a number: the decimal digits of all scripts are alike. -/
def plainDigit (c : Char) : Char :=
  if Text.isDecimal c then Char.ofNat ('0'.toNat + Text.decimalValue c) else c

/-- Whether a character may stand around a number; the information separators may not. -/
def isBlank (c : Char) : Bool :=
  Text.isBlank c && !('\x1c' ≤ c && c ≤ '\x1f')

/-- A text without the blanks around it, in plain digits. -/
def stripped (text : List Char) : List Char :=
  (((text.dropWhile isBlank).reverse.dropWhile isBlank).reverse).map plainDigit

/-- Whether a minus sign stands before a number, and what stands after its sign. -/
def signed : List Char → Bool × List Char
  | '-' :: rest => (true, rest)
  | '+' :: rest => (false, rest)
  | text => (false, text)

theorem length_signed_le (text : List Char) : (signed text).2.length ≤ text.length := by
  rw [signed.eq_def]
  split <;> simp

/-- The number that digits to a base of at most sixteen denote, if there are any. -/
def natural? (base : Nat) (digits : List Char) : Option Nat :=
  if digits.isEmpty then none
  else digits.foldlM (fun n c => ((Text.hexValue? c).filter (· < base)).map (base * n + ·)) 0

/-- The letter that marks the digits of a base, after a zero. -/
def baseLetter? (base : Nat) : Option Char :=
  [(2, 'b'), (8, 'o'), (16, 'x')].lookup base

/-- The digits of a number without the mark of its base, if it has that. -/
def withoutMark (base : Nat) (text : List Char) : List Char :=
  match text with
  | '0' :: letter :: rest => if baseLetter? base == some letter.toLower then rest else text
  | _ => text

/-- The integer that a text denotes to a base, which may be marked; decimal ones have a most length. -/
def integer? (base : Nat) (text : List Char) : Option Int := do
  let (negative, unsigned) := signed (stripped text)
  let digits := withoutMark base unsigned
  if base == 10 && Text.maxDigits < digits.length then none
  else
    let size ← natural? base digits
    return if negative then -(size : Int) else size

/-- The power of ten at the end of a number: a letter, a sign that may lack, and digits. -/
def exponent? (text : List Char) : Option Int :=
  match text with
  | [] => some 0
  | letter :: power =>
    if letter != 'e' && letter != 'E' then none
    else
      let (negative, digits) := signed power
      (natural? 10 digits).map fun (size : Nat) => if negative then -(size : Int) else size

/-- The unsigned decimal number that a text denotes, with digits on at least one side of its point. -/
def decimal? (text : List Char) : Option Double := do
  let whole := text.takeWhile fun c => '0' ≤ c && c ≤ '9'
  let (fraction, rest) :=
    match text.drop whole.length with
    | '.' :: after => (after.takeWhile fun c => '0' ≤ c && c ≤ '9', after.dropWhile fun c => '0' ≤ c && c ≤ '9')
    | rest => ([], rest)
  let exponent ← exponent? rest
  if whole.isEmpty && fraction.isEmpty then none
  else return .ofDecimal false (Text.decimalNumber (whole ++ fraction)) (exponent - fraction.length)

/-- The floating-point number that a text denotes: a decimal number or a word for one without digits. -/
def real? (text : List Char) : Option Double := do
  let (negative, unsigned) := signed (stripped text)
  let word := String.ofList (unsigned.map Char.toLower)
  let size ←
    if word == "inf" || word == "infinity" then some (.infinite false)
    else if word == "nan" then some .nan
    else decimal? unsigned
  return if negative then size.negate else size

end TypedClient.Numeral
