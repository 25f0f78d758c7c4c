import TypedClient.Json.Quoted
import TypedClient.Number.Numeral

/-! Numbers of a JSON text. -/

namespace TypedClient.Json

/-- Whether a character is one of the digits from zero to nine. -/
def isAsciiDigit (c : Char) : Bool :=
  '0' ≤ c && c ≤ '9'

/-- The digits at the start of a text, with the rest. -/
def leadingDigits (text : List Char) : List Char × List Char :=
  (text.takeWhile isAsciiDigit, text.dropWhile isAsciiDigit)

/-- The whole part of a number; after a zero no further digit belongs to it. -/
def wholePart? : List Char → Option (List Char × List Char)
  | '0' :: rest => some (['0'], rest)
  | text =>
    let (digits, rest) := leadingDigits text
    if digits.isEmpty then none else some (digits, rest)

/-- The digits after the point, if a point with a digit after it follows. -/
def fractionPart (text : List Char) : Option (List Char) × List Char :=
  match text with
  | '.' :: after =>
    let (digits, rest) := leadingDigits after
    if digits.isEmpty then (none, text) else (some digits, rest)
  | _ => (none, text)

/-- The power of ten, if a mark with a digit after it follows. -/
def exponentPart (text : List Char) : Option Int × List Char :=
  match text with
  | mark :: after =>
    let (negative, unsigned) := Numeral.signed after
    let (digits, rest) := leadingDigits unsigned
    if (mark != 'e' && mark != 'E') || digits.isEmpty then (none, text)
    else
      let size : Int := Text.decimalNumber digits
      (some (if negative then -size else size), rest)
  | [] => (none, text)

/-- The integer that digits denote, unless they are too many to be read. -/
def integer (negative : Bool) (digits : List Char) : Except Fault Scalar :=
  match Text.decimalNumber? digits with
  | some size => .ok (.int (if negative then -(size : Int) else size))
  | none => .error .notANumber

/-- The sign before a number. -/
def signPart : List Char → Bool × List Char
  | '-' :: rest => (true, rest)
  | text => (false, text)

/-- A number at the start of a text; one with a fraction or a power of ten is not an integer. -/
def numeral? (text : List Char) : Option (Except Fault Scalar × List Char) := do
  let (whole, afterWhole) ← wholePart? (signPart text).2
  let (fraction, afterFraction) := fractionPart afterWhole
  let (exponent, rest) := exponentPart afterFraction
  let negative := (signPart text).1
  match fraction, exponent with
  | none, none => return (integer negative whole, rest)
  | _, _ =>
    let places := fraction.getD []
    let digits := Text.decimalNumber (whole ++ places)
    return (.ok (.float (.ofDecimal negative digits (exponent.getD 0 - places.length))), rest)

theorem length_signPart_le (text : List Char) : (signPart text).2.length ≤ text.length := by
  rw [signPart.eq_def]
  split <;> simp

theorem length_leadingDigits_le (text : List Char) : (leadingDigits text).2.length ≤ text.length :=
  (List.dropWhile_sublist _).length_le

theorem length_of_leadingDigits {text : List Char} (some_ : (leadingDigits text).1.isEmpty = false) :
    (leadingDigits text).2.length < text.length := by
  match text with
  | [] => simp [leadingDigits] at some_
  | c :: rest =>
    rw [leadingDigits] at some_ ⊢
    by_cases digit : isAsciiDigit c
    · have := (List.dropWhile_sublist (l := rest) isAsciiDigit).length_le
      simp only [List.dropWhile_cons, digit, if_true, List.length_cons]
      omega
    · simp [digit] at some_

theorem length_of_wholePart? {text whole rest : List Char} (found : wholePart? text = some (whole, rest)) :
    rest.length < text.length := by
  rw [wholePart?.eq_def] at found
  split at found
  · cases found
    simp
  · by_cases empty : (leadingDigits text).1.isEmpty
    · simp [empty] at found
    · simp only [empty, Bool.false_eq_true, if_false, Option.some.injEq, Prod.mk.injEq] at found
      rw [← found.2]
      exact length_of_leadingDigits (by simpa using empty)

theorem length_fractionPart_le (text : List Char) : (fractionPart text).2.length ≤ text.length := by
  rw [fractionPart.eq_def]
  split
  · next after =>
    have := length_leadingDigits_le after
    dsimp only
    split <;> simp only [List.length_cons] <;> omega
  · exact Nat.le_refl _

theorem length_exponentPart_le (text : List Char) : (exponentPart text).2.length ≤ text.length := by
  rw [exponentPart.eq_def]
  split
  · next mark after =>
    have sign := Numeral.length_signed_le after
    have digits := length_leadingDigits_le (Numeral.signed after).2
    dsimp only
    split <;> simp only [List.length_cons] <;> omega
  · exact Nat.le_refl _

theorem length_of_numeral? {text rest : List Char} {read : Except Fault Scalar}
    (found : numeral? text = some (read, rest)) : rest.length < text.length := by
  rw [numeral?] at found
  obtain ⟨⟨whole, afterWhole⟩, whole_eq, found⟩ := Option.bind_eq_some_iff.1 found
  have sign := length_signPart_le text
  have shorter := length_of_wholePart? whole_eq
  have fraction := length_fractionPart_le afterWhole
  have exponent := length_exponentPart_le (fractionPart afterWhole).2
  have rest_eq : rest = (exponentPart (fractionPart afterWhole).2).2 := by
    dsimp only at found
    split at found <;> (cases found; rfl)
  rw [rest_eq]
  omega

end TypedClient.Json
