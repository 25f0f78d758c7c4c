/-! Tables of code points: ascending ranges, and ranges that are moved as a whole. -/

namespace TypedClient.Text

/-- Whether a code point lies in one of the ranges, both of whose ends are included. -/
def inRanges (code : Nat) : List (Nat × Nat) → Bool
  | [] => false
  | (first, last) :: rest =>
    -- The ranges ascend, so nothing further on can hold a smaller code point.
    if code < first then false else code ≤ last || inRanges code rest

/-- Every `stride`-th code point from `first` to `last` is moved, `first` itself to `target`. -/
structure Shift where
  first : Nat
  last : Nat
  stride : Nat
  target : Nat

/-- Whether a shift moves the code point. -/
def Shift.moves (shift : Shift) (code : Nat) : Bool :=
  shift.first ≤ code && code ≤ shift.last && (code - shift.first) % shift.stride == 0

/-- Whether some shift of the table moves the character. -/
def covered (table : List Shift) (c : Char) : Bool :=
  table.any fun shift => shift.moves c.toNat

/-- The character where the first shift that applies moves it, or itself. -/
def shifted (table : List Shift) (c : Char) : Char :=
  match table.find? fun shift => shift.moves c.toNat with
  | some shift => Char.ofNat (shift.target + (c.toNat - shift.first))
  | none => c

/-- The sequence that the table gives for a character, if it has an entry there. -/
def expansion? (table : List (Nat × List Nat)) (c : Char) : Option (List Char) :=
  (table.find? fun entry => entry.1 == c.toNat).map fun entry => entry.2.map Char.ofNat

end TypedClient.Text
