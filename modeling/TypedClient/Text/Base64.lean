/-! Bytes written as text, six bits to a character. -/

namespace TypedClient.Text

/-- The six bits that a character stands for, if it stands for any. -/
def sixBits? (c : Char) : Option Nat :=
  if 'A' ≤ c && c ≤ 'Z' then some (c.toNat - 'A'.toNat)
  else if 'a' ≤ c && c ≤ 'z' then some (c.toNat - 'a'.toNat + 26)
  else if '0' ≤ c && c ≤ '9' then some (c.toNat - '0'.toNat + 52)
  else if c == '+' then some 62
  else if c == '/' then some 63
  else none

/-- What has been read of a group of four characters. -/
structure Base64Group where
  /-- How many characters of the group have been read. -/
  count : Nat := 0
  /-- The bits that make up no whole byte yet. -/
  bits : Nat := 0
  /-- The padding marks since the last of them. -/
  pads : Nat := 0

/-- The group with six more bits, and the byte that they complete. -/
def Base64Group.add (group : Base64Group) (six : Nat) : Base64Group × List UInt8 :=
  let bits := 64 * group.bits + six
  match group.count with
  | 0 => ({ count := 1, bits }, [])
  | 1 => ({ count := 2, bits := bits % 16 }, [UInt8.ofNat (bits / 16)])
  | 2 => ({ count := 3, bits := bits % 4 }, [UInt8.ofNat (bits / 4)])
  | _ => ({}, [UInt8.ofNat bits])

/-- The bytes that a text stands for from inside a group on; characters of no meaning are passed over,
and a padded group ends the text. -/
def base64From (group : Base64Group) : List Char → Option (List UInt8)
  | [] => if group.count == 0 then some [] else none
  | c :: rest =>
    if c == '=' then
      if 2 ≤ group.count && 4 ≤ group.count + group.pads + 1 then some []
      else base64From (if 2 ≤ group.count then { group with pads := group.pads + 1 } else group) rest
    else
      match sixBits? c with
      | none => base64From group rest
      | some six =>
        let (next, bytes) := group.add six
        (base64From next rest).map (bytes ++ ·)

/-- The bytes that a text stands for, unless its last group breaks off. -/
def base64? (text : List Char) : Option (List UInt8) :=
  base64From {} text

end TypedClient.Text
