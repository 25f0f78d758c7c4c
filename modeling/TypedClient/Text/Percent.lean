import TypedClient.Text.Half
import TypedClient.Text.Search

/-! Percent-encoding: two hexadecimal digits after a percent sign stand for a byte of UTF-8. -/

namespace TypedClient.Text

/-- The value of a hexadecimal digit. -/
def hexValue? (c : Char) : Option Nat :=
  if '0' ≤ c && c ≤ '9' then some (c.toNat - '0'.toNat)
  else if 'a' ≤ c && c ≤ 'f' then some (c.toNat - 'a'.toNat + 10)
  else if 'A' ≤ c && c ≤ 'F' then some (c.toNat - 'A'.toNat + 10)
  else none

/-- The byte that two hexadecimal digits denote. -/
def hexByte? (high low : Char) : Option Nat :=
  match hexValue? high, hexValue? low with
  | some h, some l => some (h * 16 + l)
  | _, _ => none

/-- The bytes of an ASCII text, with every valid escape replaced by the byte it stands for. -/
def unescapeBytes : List Char → List Nat
  | [] => []
  | '%' :: high :: low :: rest =>
    match hexByte? high low with
    | some byte => byte :: unescapeBytes rest
    -- A percent sign without two hexadecimal digits stands for itself.
    | none => '%'.toNat :: unescapeBytes (high :: low :: rest)
  | c :: rest => c.toNat :: unescapeBytes rest

/-- How many continuation bytes a lead byte asks for, and the range of the first of them. -/
def continuation? (lead : Nat) : Option (Nat × Nat × Nat) :=
  -- The narrower ranges exclude overlong forms, surrogates and code points past the last one.
  if 0xC2 ≤ lead && lead ≤ 0xDF then some (1, 0x80, 0xBF)
  else if lead == 0xE0 then some (2, 0xA0, 0xBF)
  else if lead == 0xED then some (2, 0x80, 0x9F)
  else if 0xE1 ≤ lead && lead ≤ 0xEF then some (2, 0x80, 0xBF)
  else if lead == 0xF0 then some (3, 0x90, 0xBF)
  else if 0xF1 ≤ lead && lead ≤ 0xF3 then some (3, 0x80, 0xBF)
  else if lead == 0xF4 then some (3, 0x80, 0x8F)
  else none

/-- The payload bits of a lead byte that asks for the given number of continuation bytes. -/
def leadBits (lead count : Nat) : Nat :=
  lead % Nat.pow 2 (6 - count)

/-- The state of a decoder inside a character: bytes still due, range of the next one, bits so far. -/
structure Pending where
  due : Nat
  low : Nat
  high : Nat
  bits : Nat

/-- The character that replaces every ill-formed sequence of bytes. -/
def replacement : Char := '\ufffd'

/-- Starts a character at a byte, or gives the character that the byte alone stands for. -/
def startCharacter (byte : Nat) : Option Pending × List Char :=
  if byte < 0x80 then (none, [Char.ofNat byte])
  else
    match continuation? byte with
    | some (count, low, high) => (some ⟨count, low, high, leadBits byte count⟩, [])
    | none => (none, [replacement])

/-- Decodes UTF-8; each maximal ill-formed part of a character becomes one replacement character. -/
def decodeUtf8 : Option Pending → List Nat → List Char
  | none, [] => []
  | some _, [] => [replacement]
  | none, byte :: rest =>
    let (state, out) := startCharacter byte
    out ++ decodeUtf8 state rest
  | some pending, byte :: rest =>
    if pending.low ≤ byte && byte ≤ pending.high then
      let bits := pending.bits * 64 + byte % 64
      if pending.due == 1 then ofCode bits ++ decodeUtf8 none rest
      else decodeUtf8 (some ⟨pending.due - 1, 0x80, 0xBF, bits⟩) rest
    else
      -- The byte belongs to no character begun before it, so it starts its own.
      let (state, out) := startCharacter byte
      replacement :: out ++ decodeUtf8 state rest

/-- Splits a text into maximal runs that are all ASCII or all beyond it. -/
def asciiRuns (cs : List Char) : List (List Char) :=
  cs.splitBy fun a b => (a.toNat < 0x80) == (b.toNat < 0x80)

/-- Replaces the escapes of a text by the characters they stand for. -/
def percentDecode (cs : List Char) : List Char :=
  -- Bytes make up a character only within one run of ASCII text.
  (asciiRuns cs).flatMap fun run =>
    match run with
    | [] => []
    | c :: _ => if c.toNat < 0x80 then decodeUtf8 none (unescapeBytes run) else run

end TypedClient.Text
