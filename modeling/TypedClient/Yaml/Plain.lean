import TypedClient.Yaml.Cursor

/-! Plain scalars of a YAML text, which no mark of their own ends. -/

namespace TypedClient.Yaml

/-- Whether a character with what follows it ends a run of plain characters. -/
def endsRun (inFlow : Bool) (c : Char) (rest : List Char) : Bool :=
  isSpace c || isBreak c
    || (c == ':' && (endsWord rest || (inFlow && rest.head?.any (· ∈ [',', '[', ']', '\x7b', '\x7d']))))
    || (inFlow && c ∈ [',', '?', '[', ']', '\x7b', '\x7d'])

/-- The characters of a scalar up to the next blank. -/
def plainRun (inFlow : Bool) : List Char → List Char
  | [] => []
  | c :: rest => if endsRun inFlow c rest then [] else c :: plainRun inFlow rest

/-- The line breaks of empty lines and the number of characters that they and the next indentation
take; none if the mark of a document follows. -/
def blankLines : List Char → Option (List Char) × Nat
  | [] => (some [], 0)
  | c :: rest =>
    if c == ' ' then
      let (breaks, count) := blankLines rest
      (breaks, count + 1)
    else if isBreak c then
      if startsDocumentMark rest then (none, 1)
      else
        let (breaks, count) := blankLines rest
        (breaks.map (breakText c :: ·), count + 1)
    else (some [], 0)

/-- The blanks between two runs of a plain scalar. -/
structure PlainGap where
  text : List Char
  /-- How many characters the gap takes. -/
  count : Nat
  /-- Whether the gap holds a line break. -/
  isBroken : Bool

/-- The gap at the start of a text; one whose text is empty ends the scalar. -/
def plainGap (text : List Char) : PlainGap :=
  let spaces := text.takeWhile (· == ' ')
  match text.drop spaces.length with
  | c :: rest =>
    if !isBreak c then ⟨spaces, spaces.length, false⟩
    else if startsDocumentMark rest then ⟨[], spaces.length + 1, true⟩
    else
      match blankLines rest with
      | (none, count) => ⟨[], spaces.length + 1 + count, true⟩
      | (some breaks, count) =>
        let first := if breakText c != '\n' then [breakText c] else if breaks.isEmpty then [' '] else []
        ⟨first ++ breaks, spaces.length + 1 + count, true⟩
  | [] => ⟨spaces, spaces.length, false⟩

theorem Cursor.rest_forward (n : Nat) (cursor : Cursor) :
    (cursor.forward n).rest = cursor.rest.drop n := by
  induction n generalizing cursor with
  | zero => rfl
  | succ n ih =>
    rw [Cursor.forward, ih, Cursor.next]
    split
    · next h => simp [h]
    · next h => split <;> simp [h]

/-- A plain scalar as it was read. -/
structure PlainScalar where
  text : List Char
  /-- Where reading goes on. -/
  cursor : Cursor
  /-- Whether a line break was the last thing read. -/
  isBroken : Bool

/-- The plain scalar at a place, whose further lines have at least the given indentation. -/
def plainScalar (inFlow : Bool) (indent : Int) (gap : PlainGap) (cursor : Cursor) : PlainScalar :=
  let run := plainRun inFlow cursor.rest
  if _stop : cursor.rest.head? = some '#' ∨ run.length = 0 then ⟨[], cursor, gap.isBroken⟩
  else
    let next := plainGap (cursor.rest.drop run.length)
    let after := cursor.forward (run.length + next.count)
    if next.text.isEmpty || after.rest.head? == some '#' || (!inFlow && after.column < indent) then
      ⟨gap.text ++ run, after, next.isBroken⟩
    else
      let more := plainScalar inFlow indent next after
      { more with text := gap.text ++ run ++ more.text }
termination_by cursor.rest.length
decreasing_by
  have read : (plainRun inFlow cursor.rest).length ≠ 0 := fun h => _stop (.inr h)
  have left : cursor.rest ≠ [] := by
    intro h
    simp [h, plainRun] at read
  have := List.length_pos_iff.2 left
  simp only [Cursor.rest_forward, List.length_drop]
  omega

end TypedClient.Yaml
