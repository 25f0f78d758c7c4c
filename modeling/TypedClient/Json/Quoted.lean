import TypedClient.Error
import TypedClient.Text.Half
import TypedClient.Text.Percent

/-! Strings of a JSON text and the escapes inside them. -/

namespace TypedClient.Json

/-- Why a text denotes no value. -/
inductive Failure
  /-- The text is malformed, as shows where the given rest of it is left. -/
  | malformed (cause : JsonFault) (rest : List Char)
  /-- The text has the form of a value, but there is no such value. -/
  | impossible (fault : Fault)

/-- The answer of reading a part of a text. -/
abbrev Reading := Except Failure

/-- A failure at the start of what is left of the text. -/
def fail {α : Type} (cause : JsonFault) (rest : List Char) : Reading α :=
  .error (.malformed cause rest)

/-- What is left of a text after some part of it has been read. -/
abbrev Shorter (text : List Char) : Type :=
  { rest : List Char // rest.length < text.length }

/-- The number that four hexadecimal digits at the start of a text denote. -/
def unit? : List Char → Option Nat
  | a :: b :: c :: d :: _ => do
    let high ← Text.hexByte? a b
    let low ← Text.hexByte? c d
    return 0x100 * high + low
  | _ => none

theorem length_drop_lt {digits : List Char} (h : ¬ digits.drop 4 = []) :
    (digits.drop 4).length < digits.length := by
  have long := mt List.drop_eq_nil_of_le h
  rw [List.length_drop]
  omega

theorem length_drop_second_lt {digits low : List Char} (next : digits.drop 4 = '\\' :: 'u' :: low) :
    (low.drop 4).length < digits.length := by
  have := congrArg List.length next
  simp only [List.length_drop, List.length_cons] at this ⊢
  omega

/-- What an escape by number denotes, from after the letter of the escape: a character or a half alone. -/
def numberedEscape (digits : List Char) : Reading (List Char × Shorter digits) :=
  -- A string goes on after the digits, if only to its closing quote.
  if h : digits.drop 4 = [] then fail .badUnicodeEscape ('u' :: digits)
  else
    match unit? digits with
    | none => fail .badUnicodeEscape ('u' :: digits)
    | some unit =>
      let alone : List Char × Shorter digits :=
        (Text.ofCode unit, ⟨digits.drop 4, length_drop_lt h⟩)
      if !Text.isHighHalf unit then .ok alone
      else
        match next : digits.drop 4 with
        | '\\' :: 'u' :: low =>
          -- A text that ends too soon for a second escape leaves the first one alone.
          if low.drop 4 = [] then .ok alone
          else
            match unit? low with
            | none => fail .badUnicodeEscape ('u' :: low)
            | some second =>
              if Text.isLowHalf second then
                .ok (Text.ofCode (Text.joinHalves unit second),
                  ⟨low.drop 4, length_drop_second_lt next⟩)
              else .ok alone
        | _ => .ok alone

/-- The character that a letter denotes after a backslash. -/
def namedEscape? : Char → Option Char
  | 'b' => some '\x08'
  | 'f' => some '\x0c'
  | 'n' => some '\n'
  | 'r' => some '\r'
  | 't' => some '\t'
  | c => if c ∈ ['"', '\\', '/'] then some c else none

/-- The characters of a string up to its closing quote, from after its opening one. -/
def stringRest (whole : List Char) (text : List Char) : Reading (List Char × Shorter text) :=
  match text with
  | [] => fail .unterminatedString whole
  | '"' :: rest => .ok ([], ⟨rest, by simp⟩)
  | ['\\'] => fail .unterminatedString whole
  | '\\' :: 'u' :: digits => do
    let (denoted, ⟨rest, shorter⟩) ← numberedEscape digits
    let (cs, ⟨after, short⟩) ← stringRest whole rest
    return (denoted ++ cs, ⟨after, by simp only [List.length_cons]; omega⟩)
  | '\\' :: letter :: rest =>
    match namedEscape? letter with
    | none => fail .badEscape ('\\' :: letter :: rest)
    | some c => do
      let (cs, ⟨after, short⟩) ← stringRest whole rest
      return (c :: cs, ⟨after, by simp only [List.length_cons]; omega⟩)
  | c :: rest =>
    if c.toNat < 0x20 then fail .controlCharacter (c :: rest)
    else do
      let (cs, ⟨after, short⟩) ← stringRest whole rest
      return (Text.ofCode c.toNat ++ cs, ⟨after, by simp only [List.length_cons]; omega⟩)
termination_by text.length
decreasing_by all_goals simp only [List.length_cons]; omega

end TypedClient.Json
