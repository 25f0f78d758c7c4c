import TypedClient.Json.Numeral
import TypedClient.Text.Search
import TypedClient.Value.Equality

/-! The value that a JSON text denotes, or the place where the text is malformed. -/

namespace TypedClient.Json

/-- The text without blanks at its start. -/
def skipBlanks (text : List Char) : List Char :=
  text.dropWhile fun c => c ∈ [' ', '\t', '\n', '\r']

theorem length_skipBlanks_le (text : List Char) : (skipBlanks text).length ≤ text.length :=
  (List.dropWhile_sublist _).length_le

/-- The values that are written as words. -/
def words : List (String × Scalar) :=
  [("null", .null), ("true", .bool true), ("false", .bool false), ("NaN", .float .nan),
   ("Infinity", .float (.infinite false)), ("-Infinity", .float (.infinite true))]

/-- A value without parts at the start of a text. -/
def scalar? (text : List Char) : Option (Except Fault Scalar × List Char) :=
  (words.findSome? fun (word, meaning) =>
    (Text.afterHead? word.toList text).map fun rest => (.ok meaning, rest)).or (numeral? text)

theorem length_of_scalar? {text rest : List Char} {read : Except Fault Scalar}
    (found : scalar? text = some (read, rest)) : rest.length < text.length := by
  rcases Option.or_eq_some_iff.1 found with isWord | ⟨_, isNumber⟩
  · obtain ⟨⟨word, meaning⟩, listed, isWord⟩ := List.exists_of_findSome?_eq_some isWord
    obtain ⟨after, split, same⟩ := Option.map_eq_some_iff.1 isWord
    have sum := Text.length_of_afterHead? split
    have nonempty : 0 < word.toList.length := (by decide : ∀ w ∈ words, 0 < w.1.toList.length) _ listed
    cases same
    omega
  · exact length_of_numeral? isNumber

/-- How many lists and maps may lie inside one another. -/
def maxDepth : Nat := 990

/-- The answer of a reader, unless too many lists and maps are open around it. -/
def within {α : Type} (depth : Nat) (answer : Reading α) : Reading α :=
  if maxDepth < depth then .error (.impossible .tooDeep) else answer

mutual

/-- The value at the start of a text, inside the given number of lists and maps. -/
def value (depth : Nat) (text : List Char) : Reading (Value × Shorter text) :=
  match head : text with
  | '"' :: rest => do
    let (cs, ⟨after, short⟩) ← stringRest text rest
    return (.text (String.ofList cs), ⟨after, by simp only [List.length_cons]; omega⟩)
  | '[' :: rest => do
    within (depth + 1) (.ok ())
    have bound := length_skipBlanks_le rest
    match start : skipBlanks rest with
    | ']' :: after =>
      return (.list [], ⟨after, by simp only [start, List.length_cons] at bound ⊢; omega⟩)
    | _ =>
      let (items, ⟨after, short⟩) ← items (depth + 1) [] (skipBlanks rest)
      return (.list items, ⟨after, by simp only [List.length_cons]; omega⟩)
  | '\x7b' :: rest => do
    within (depth + 1) (.ok ())
    have bound := length_skipBlanks_le rest
    match start : skipBlanks rest with
    | '\x7d' :: after =>
      return (.map [], ⟨after, by simp only [start, List.length_cons] at bound ⊢; omega⟩)
    | _ =>
      let (entries, ⟨after, short⟩) ← entries (depth + 1) [] (skipBlanks rest)
      return (.map (Members.ofEntries entries), ⟨after, by simp only [List.length_cons]; omega⟩)
  | _ =>
    match found : scalar? text with
    | some (.ok scalar, rest) => .ok (.scalar scalar, ⟨rest, head ▸ length_of_scalar? found⟩)
    | some (.error fault, _) => .error (.impossible fault)
    | none => fail .expectingValue text
termination_by (text.length, 0)
decreasing_by all_goals subst head; simp_wf; omega

/-- The items of a list up to its closing bracket, after those that have been read. -/
def items (depth : Nat) (known : List Value) (text : List Char) :
    Reading (List Value × Shorter text) := do
  let (item, ⟨rest, shorter⟩) ← value depth text
  have bound := length_skipBlanks_le rest
  match next : skipBlanks rest with
  | ']' :: after =>
    return ((item :: known).reverse, ⟨after, by
      simp only [next, List.length_cons] at bound
      omega⟩)
  | ',' :: after =>
    have bound' := length_skipBlanks_le after
    have closer : (skipBlanks after).length < text.length := by
      simp only [next, List.length_cons] at bound
      omega
    let (all, ⟨final, short⟩) ← items depth (item :: known) (skipBlanks after)
    return (all, ⟨final, by omega⟩)
  | other => fail .expectingComma other
termination_by (text.length, 1)
decreasing_by
  · exact Prod.Lex.right _ Nat.zero_lt_one
  · exact Prod.Lex.left _ _ closer

/-- The entries of a map up to its closing brace, repeated keys included, after those that have been
read. -/
def entries (depth : Nat) (known : List (Scalar × Value)) (text : List Char) :
    Reading (List (Scalar × Value) × Shorter text) := do
  match head : text with
  | '"' :: rest =>
    let (key, ⟨rest, shorter⟩) ← stringRest text rest
    have bound := length_skipBlanks_le rest
    match next : skipBlanks rest with
    | ':' :: after =>
      have closer : (skipBlanks after).length < text.length := by
        have := length_skipBlanks_le after
        simp only [next, head, List.length_cons] at bound ⊢
        omega
      let (member, ⟨rest', shorter'⟩) ← value depth (skipBlanks after)
      let entry := (.text (String.ofList key), member)
      have bound' := length_skipBlanks_le rest'
      match next' : skipBlanks rest' with
      | '\x7d' :: final =>
        return ((entry :: known).reverse, ⟨final, by
          subst head
          simp only [next', List.length_cons] at bound' closer ⊢
          omega⟩)
      | ',' :: others =>
        have closer' : (skipBlanks others).length < text.length := by
          have := length_skipBlanks_le others
          simp only [next', List.length_cons] at bound'
          omega
        let (all, ⟨final, short⟩) ← entries depth (entry :: known) (skipBlanks others)
        return (all, ⟨final, by subst head; omega⟩)
      | other => fail .expectingComma other
    | other => fail .expectingColon other
  | _ => fail .expectingName text
termination_by (text.length, 1)
decreasing_by
  · exact Prod.Lex.left _ _ (head ▸ closer)
  · exact Prod.Lex.left _ _ (head ▸ closer')

end

/-- The place in a text that has the given number of characters before it. -/
def placeAt (text : List Char) (offset : Nat) : Place :=
  let lines := Text.splitOn '\n' (text.take offset)
  { line := lines.length, column := (lines.getLastD []).length + 1, offset }

/-- The value of a text that starts with a value and holds nothing after it. -/
def document (text : List Char) : Reading Value :=
  match text with
  | '\ufeff' :: _ => fail .byteOrderMark text
  | _ => do
    let (value, ⟨rest, _⟩) ← value 0 (skipBlanks text)
    match skipBlanks rest with
    | [] => return value
    | extra => fail .extraData extra

/-- Why a text as a whole denotes no value. -/
inductive Defect
  | malformed (cause : JsonFault) (place : Place)
  | impossible (fault : Fault)

/-- The value that a text denotes. -/
def read (text : List Char) : Except Defect Value :=
  match document text with
  | .ok value => .ok value
  | .error (.malformed cause rest) =>
    .error (.malformed cause (placeAt text (text.length - rest.length)))
  | .error (.impossible fault) => .error (.impossible fault)

end TypedClient.Json
