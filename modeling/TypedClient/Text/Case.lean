import TypedClient.Text.CaseMap
import TypedClient.Text.Letter

/-! Changing the case of whole texts, where the lower-case sigma depends on its place in a word. -/

namespace TypedClient.Text

/-- Whether a sigma ends a word: a cased letter stands before it and none after it. -/
def endsWord (before after : List Char) : Bool :=
  -- Ignorable characters on either side are looked through.
  match before.dropWhile isCaseIgnorable with
  | [] => false
  | previous :: _ =>
    isCased previous &&
      match after.dropWhile isCaseIgnorable with
      | [] => true
      | next :: _ => !isCased next

/-- The lower-case form of a character between what stands before it, nearest first, and after it. -/
def lowerBetween (before after : List Char) (c : Char) : List Char :=
  if c == 'Σ' then [if endsWord before after then 'ς' else 'σ'] else lowerOf c

/-- A text in lower case, given what stands before it, nearest first. -/
def lowerAfter (before : List Char) : List Char → List Char
  | [] => []
  | c :: rest => lowerBetween before rest c ++ lowerAfter (c :: before) rest

/-- A text in lower case. -/
def toLower (cs : List Char) : List Char :=
  lowerAfter [] cs

/-- A text in upper case. -/
def toUpper (cs : List Char) : List Char :=
  cs.flatMap upperOf

/-- A text whose first character is in title case and all others in lower case. -/
def capitalize : List Char → List Char
  | [] => []
  | c :: rest => titleOf c ++ lowerAfter [c] rest

end TypedClient.Text
