import TypedClient.Text.Ranges

/-! Blank characters and the trimming of texts. -/

namespace TypedClient.Text

/-- Code points of white space: the Unicode spaces, the line separators and the four information separators. -/
def blankRanges : List (Nat × Nat) :=
  [(0x9, 0xd), (0x1c, 0x20), (0x85, 0x85), (0xa0, 0xa0), (0x1680, 0x1680), (0x2000, 0x200a),
    (0x2028, 0x2029), (0x202f, 0x202f), (0x205f, 0x205f), (0x3000, 0x3000)]

/-- White space of any kind. -/
def isBlank (c : Char) : Bool :=
  inRanges c.toNat blankRanges

/-- The text without the blanks at its end. -/
def trimEnd (cs : List Char) : List Char :=
  (cs.reverse.dropWhile isBlank).reverse

/-- The text without the blanks at either end. -/
def trim (cs : List Char) : List Char :=
  trimEnd (cs.dropWhile isBlank)

end TypedClient.Text
