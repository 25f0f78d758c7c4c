import TypedClient.Proofs.TypeScript.TypeReader
import TypedClient.Proofs.TypeScript.TypeTokens
import TypedClient.TypeScript.Equality

/-! Printing a type expression and reading its text back gives the expression, unions in unions flattened. -/

namespace TypedClient

namespace TypeExpr

/-- The types that a type is the union of; all but a union stand for themselves. -/
def alternatives : TypeExpr → List TypeExpr
  | .union types => types
  | type => [type]

/-- The types that a type is the intersection of; all but an intersection stand for themselves. -/
def parts : TypeExpr → List TypeExpr
  | .intersection types => types
  | type => [type]

mutual

/-- The type with the alternatives of unions inside unions, and the parts of intersections inside
intersections, put in one list, and with null as a name. -/
def flattened : TypeExpr → TypeExpr
  | .reference name args => .reference name (flattenedEach args)
  | .literal .null => .null
  | .literal value => .literal value
  | .array element => .array element.flattened
  | .union types => .union (flattenedAlternatives types)
  | .intersection types => .intersection (flattenedParts types)
  | .object members => .object (flattenedMembers members)
  | .indexed whole index => .indexed whole.flattened index
  | .raw text => .raw text
  | .foreign kind => .foreign kind

/-- Several types, each of them flattened. -/
def flattenedEach : List TypeExpr → List TypeExpr
  | [] => []
  | type :: rest => type.flattened :: flattenedEach rest

/-- The alternatives of several types together, each of them flattened. -/
def flattenedAlternatives : List TypeExpr → List TypeExpr
  | [] => []
  | type :: rest => type.flattened.alternatives ++ flattenedAlternatives rest

/-- The parts of several types together, each of them flattened. -/
def flattenedParts : List TypeExpr → List TypeExpr
  | [] => []
  | type :: rest => type.flattened.parts ++ flattenedParts rest

/-- Members with flattened types and without comments. -/
def flattenedMembers : List (Member TypeExpr) → List (Member TypeExpr)
  | [] => []
  | ⟨name, type, isRequired, isReadOnly, _⟩ :: rest =>
    ⟨name, type.flattened, isRequired, isReadOnly, []⟩ :: flattenedMembers rest

end

/-- The alternatives of several types stand one after the other. -/
theorem flattenedAlternatives_eq_flatMap (types : List TypeExpr) :
    flattenedAlternatives types = types.flatMap fun t => t.flattened.alternatives := by
  induction types with
  | nil => rfl
  | cons type rest ih => rw [flattenedAlternatives, ih, List.flatMap_cons]

/-- The parts of several types stand one after the other. -/
theorem flattenedParts_eq_flatMap (types : List TypeExpr) :
    flattenedParts types = types.flatMap fun t => t.flattened.parts := by
  induction types with
  | nil => rfl
  | cons type rest ih => rw [flattenedParts, ih, List.flatMap_cons]

/-- Items that each stand for one item at least stand for no fewer items than they are. -/
theorem length_le_flatMap {α β : Type} {f : α → List β} {items : List α} (each : ∀ a ∈ items, f a ≠ []) :
    items.length ≤ (items.flatMap f).length := by
  induction items with
  | nil => exact Nat.zero_le _
  | cons item rest ih =>
    obtain ⟨first, others⟩ := List.forall_mem_cons.mp each
    have positive := List.length_pos_iff.mpr first
    have more := ih others
    rw [List.flatMap_cons, List.length_append, List.length_cons]
    omega

/-- A flattened type is the union of its alternatives and the intersection of its parts, and only a union
or an intersection consists of several. -/
structure Decomposes (type : TypeExpr) : Prop where
  union : TypeScript.joined .union type.flattened.alternatives = type.flattened
  intersection : TypeScript.joined .intersection type.flattened.parts = type.flattened
  nonempty : type.flattened.alternatives ≠ [] ∧ type.flattened.parts ≠ []
  single : type.isAlternative = false → type.flattened.alternatives = [type.flattened]
  simple : type.isAlternative = true ∨ type.isCompound = false → type.flattened.parts = [type.flattened]

/-- Every type that can be read decomposes when it is flattened. -/
theorem Readable.decomposes {type : TypeExpr} (readable : type.Readable) : type.Decomposes := by
  induction readable with
  | reference | text | int | bool | null | array | object =>
    -- A type that is neither is its own only alternative and its own only part.
    refine ⟨rfl, rfl, ⟨?_, ?_⟩, fun _ => rfl, fun _ => rfl⟩ <;> simp [flattened, alternatives, parts, TypeExpr.null]
  | @union types several _ ih =>
    -- A union stays one of several types, however many of them are put in its place.
    have long : types.length ≤ (flattenedAlternatives types).length := by
      rw [flattenedAlternatives_eq_flatMap]
      exact length_le_flatMap fun t mem => (ih t mem).nonempty.1
    have nonempty : flattenedAlternatives types ≠ [] := List.length_pos_iff.mp (by omega)
    refine ⟨?_, rfl, ⟨nonempty, List.cons_ne_nil _ _⟩, fun single => ?_, fun _ => rfl⟩
    · exact TypeScript.joined_eq (Nat.le_trans several long)
    · have alone : ¬ 1 < types.length := by simpa [isAlternative] using single
      omega
  | @intersection types several _ ih =>
    -- So does an intersection.
    have long : types.length ≤ (flattenedParts types).length := by
      rw [flattenedParts_eq_flatMap]
      exact length_le_flatMap fun t mem => (ih t mem).nonempty.2
    have nonempty : flattenedParts types ≠ [] := List.length_pos_iff.mp (by omega)
    refine ⟨rfl, ?_, ⟨List.cons_ne_nil _ _, nonempty⟩, fun _ => rfl, fun simple => ?_⟩
    · exact TypeScript.joined_eq (Nat.le_trans several long)
    · have alone : ¬ 1 < types.length := by simpa [isAlternative, isCompound] using simple
      omega

end TypeExpr

namespace TypeScript

/-- The tokens of a type are read as that type, whatever comes next that does not go on with it. -/
structure ReadsBack (type : TypeExpr) : Prop where
  operand : type.isCompound = false → ∀ rest, Avoids ['<'] rest →
    operand? (typeTokens type ++ rest) = some (brackets type.flattened rest)
  parts : type.isAlternative = false → ∀ rest, Avoids ['<', '['] rest →
    parts? (typeTokens type ++ rest) = moreParts type.flattened.parts rest
  alternatives : ∀ rest, Avoids ['<', '[', '&'] rest →
    alternatives? (typeTokens type ++ rest) = moreAlternatives type.flattened.alternatives rest

/-- Several lists of tokens with a mark between them have a token. -/
theorem separated_ne_nil {c : Char} {lists : List (List Token)} (several : 2 ≤ lists.length) :
    separated c lists ≠ [] := by
  match lists, several with
  | _ :: _ :: _, _ => simp [separated]

variable {type : TypeExpr}

/-- A type that can be read has a token, so less is left when it has been read. -/
theorem length_lt_of_readable (readable : type.Readable) (rest : List Token) :
    rest.length < (typeTokens type ++ rest).length := by
  -- Even an empty object has its braces, and a union has a bar.
  have nonempty : typeTokens type ≠ [] := by
    cases readable with
    | @reference _ args => cases args <;> simp [typeTokens]
    | text | int | bool | null | array | object => simp [typeTokens]
    | @union types several => exact separated_ne_nil (by rwa [tokensOfEach_eq_map, List.length_map])
    | @intersection types several => exact separated_ne_nil (by rwa [tokensOfParts_eq_map, List.length_map])
  have positive := List.length_pos_iff.mpr nonempty
  rw [List.length_append]
  omega

/-- What is read back as an operand is read back as the only part of an alternative. -/
theorem parts?_typeTokens (readable : type.Readable) (alone : type.isCompound = false)
    (operand : ∀ rest, Avoids ['<'] rest →
      operand? (typeTokens type ++ rest) = some (brackets type.flattened rest))
    {rest : List Token} (stop : Avoids ['<', '['] rest) :
    parts? (typeTokens type ++ rest) = moreParts type.flattened.parts rest := by
  -- No bracket follows, so the operand is not made a list.
  have found := operand rest (stop.mono (by simp))
  rw [brackets_eq (stop '[' (by simp))] at found
  rw [parts?_of_operand? found (length_lt_of_readable readable rest),
    readable.decomposes.simple (.inr alone)]

/-- What is read back as the parts of an alternative is read back as an alternative. -/
theorem alternatives?_typeTokens (readable : type.Readable) (single : type.isAlternative = false)
    (parts : ∀ rest, Avoids ['<', '['] rest →
      parts? (typeTokens type ++ rest) = moreParts type.flattened.parts rest)
    {rest : List Token} (stop : Avoids ['<', '[', '&'] rest) :
    alternatives? (typeTokens type ++ rest) = moreAlternatives type.flattened.alternatives rest := by
  -- No ampersand follows, so these are all of the parts.
  have found := parts rest (stop.mono (by simp))
  rw [moreParts_eq (stop '&' (by simp))] at found
  rw [alternatives?_of_parts? found (length_lt_of_readable readable rest),
    readable.decomposes.intersection, readable.decomposes.single single]

/-- A type that is no union or intersection is read back wherever it is read back as an operand. -/
theorem ReadsBack.of_operand (readable : type.Readable) (alone : type.isCompound = false)
    (operand : ∀ rest, Avoids ['<'] rest →
      operand? (typeTokens type ++ rest) = some (brackets type.flattened rest)) : ReadsBack type := by
  have single : type.isAlternative = false := by
    cases type <;> simp_all [TypeExpr.isAlternative, TypeExpr.isCompound]
  have parts := fun rest (stop : Avoids ['<', '['] rest) => parts?_typeTokens readable alone operand stop
  exact ⟨fun _ => operand, fun _ => parts,
    fun rest stop => alternatives?_typeTokens readable single parts stop⟩

/-- A type in parentheses is read back as an operand. -/
theorem ReadsBack.operand_wrapped (readable : type.Readable) (back : ReadsBack type) (rest : List Token) :
    operand? (wrapped true (typeTokens type) ++ rest) = some (brackets type.flattened rest) := by
  -- Inside the parentheses, the type ends at the closing one.
  have stop : Avoids ['<', '[', '&'] (.mark ')' :: rest) := by simp [Avoids]
  have found := back.alternatives (.mark ')' :: rest) stop
  rw [moreAlternatives_eq (by simp)] at found
  simp [wrapped, operand?, found, readable.decomposes.union]

/-- The element of a list is read back as an operand, in parentheses if it has to be. -/
theorem ReadsBack.operand_element (readable : type.Readable) (back : ReadsBack type) {rest : List Token}
    (stop : Avoids ['<'] rest) :
    operand? (wrapped type.isCompound (typeTokens type) ++ rest)
      = some (brackets type.flattened rest) := by
  cases compound : type.isCompound with
  | false => exact back.operand compound rest stop
  | true => exact back.operand_wrapped readable rest

/-- A part of an intersection is read back as its parts, in parentheses if it has to be. -/
theorem ReadsBack.parts_part (readable : type.Readable) (back : ReadsBack type) {rest : List Token}
    (stop : Avoids ['<', '['] rest) :
    parts? (wrapped type.isAlternative (typeTokens type) ++ rest)
      = moreParts type.flattened.parts rest := by
  cases alternative : type.isAlternative with
  | false => exact back.parts alternative rest stop
  | true =>
    -- In parentheses, a union is a single part.
    have found := back.operand_wrapped readable rest
    rw [brackets_eq (stop '[' (by simp))] at found
    have shorter : rest.length < (wrapped true (typeTokens type) ++ rest).length := by
      simp only [wrapped, if_true, List.length_append, List.length_cons]
      omega
    rw [parts?_of_operand? found shorter, readable.decomposes.simple (.inl alternative)]

/-- Alternatives with bars between them are read back in one list. -/
theorem alternatives?_separated {types : List TypeExpr} (nonempty : types ≠ [])
    (each : ∀ t ∈ types, ReadsBack t) {rest : List Token} (stop : Avoids ['<', '[', '&'] rest) :
    alternatives? (separated '|' (tokensOfEach types) ++ rest)
      = moreAlternatives (TypeExpr.flattenedAlternatives types) rest := by
  induction types with
  | nil => exact absurd rfl nonempty
  | cons type others ih =>
    obtain ⟨first, each⟩ := List.forall_mem_cons.mp each
    cases others with
    | nil =>
      simpa [tokensOfEach, separated, TypeExpr.flattenedAlternatives] using first.alternatives rest stop
    | cons next others =>
      -- The first type ends at the bar, after which the others are read.
      have goesOn := ih (List.cons_ne_nil _ _) each
      have found := first.alternatives (.mark '|' :: (separated '|' (tokensOfEach (next :: others)) ++ rest))
        (by simp [Avoids])
      rw [moreAlternatives, goesOn, moreAlternatives_append] at found
      simpa [tokensOfEach, separated, TypeExpr.flattenedAlternatives] using found

/-- Parts with ampersands between them are read back in one list. -/
theorem parts?_separated {types : List TypeExpr} (nonempty : types ≠ [])
    (each : ∀ t ∈ types, t.Readable ∧ ReadsBack t) {rest : List Token} (stop : Avoids ['<', '['] rest) :
    parts? (separated '&' (tokensOfParts types) ++ rest)
      = moreParts (TypeExpr.flattenedParts types) rest := by
  induction types with
  | nil => exact absurd rfl nonempty
  | cons type others ih =>
    obtain ⟨⟨readable, first⟩, each⟩ := List.forall_mem_cons.mp each
    cases others with
    | nil =>
      simpa [tokensOfParts, separated, TypeExpr.flattenedParts] using first.parts_part readable stop
    | cons next others =>
      -- The first part ends at the ampersand, after which the others are read.
      have goesOn := ih (List.cons_ne_nil _ _) each
      have goesOnWith : Avoids ['<', '['] (.mark '&' :: (separated '&' (tokensOfParts (next :: others))
        ++ rest)) := by simp [Avoids]
      have found := first.parts_part readable goesOnWith
      rw [moreParts, goesOn, moreParts_append] at found
      simpa [tokensOfParts, separated, TypeExpr.flattenedParts] using found

/-- Arguments with commas between them are read back one by one up to the closing bracket. -/
theorem arguments?_separated {types : List TypeExpr} (nonempty : types ≠ [])
    (each : ∀ t ∈ types, t.Readable ∧ ReadsBack t) (rest : List Token) :
    arguments? (separated ',' (tokensOfEach types) ++ .mark '>' :: rest)
      = some (TypeExpr.flattenedEach types, rest) := by
  induction types with
  | nil => exact absurd rfl nonempty
  | cons type others ih =>
    obtain ⟨⟨readable, first⟩, each⟩ := List.forall_mem_cons.mp each
    cases others with
    | nil =>
      have found := first.alternatives (.mark '>' :: rest) (by simp [Avoids])
      rw [moreAlternatives_eq (by simp)] at found
      -- The last argument ends at the bracket.
      have last := arguments?_last found
      simpa [tokensOfEach, separated, readable.decomposes.union, TypeExpr.flattenedEach] using last
    | cons next others =>
      have goesOn := ih (List.cons_ne_nil _ _) each
      have found := first.alternatives (.mark ',' :: (separated ',' (tokensOfEach (next :: others))
        ++ .mark '>' :: rest)) (by simp [Avoids])
      rw [moreAlternatives_eq (by simp)] at found
      -- The others are read from behind the comma, where less is left.
      have shorter := Nat.lt_of_succ_lt (length_lt_of_readable readable (.mark ',' ::
        (separated ',' (tokensOfEach (next :: others)) ++ .mark '>' :: rest)))
      have all := arguments?_comma found shorter goesOn
      simpa [tokensOfEach, separated, readable.decomposes.union, TypeExpr.flattenedEach] using all

/-- The key of a member is read back up to the mark that follows it. -/
theorem key?_keyTokens {name : Value} (readable : ReadableKey name) (rest : List Token) :
    ∃ s, name = .text s ∧ key? (keyTokens name ++ rest) = some (s, rest) := by
  obtain ⟨s, rfl, rfl | ⟨noBracket, -, -⟩⟩ := readable
  · exact ⟨_, rfl, rfl⟩
  · have noIndex : s ≠ "[key: string]" := by
      rintro rfl
      exact noBracket (by decide)
    -- Bare or in quotes, the key is one token that stands for the name.
    refine ⟨s, rfl, ?_⟩
    by_cases plain : Name.isPlain s.toList <;> simp [keyTokens, noIndex, plain, key?]

/-- The word for read-only members is told from a key of that name by what follows it. -/
theorem modifier_headTokens {name : Value} (readable : ReadableKey name) (isRequired isReadOnly : Bool)
    (rest : List Token) :
    modifier (headTokens name isRequired isReadOnly ++ rest) = (isReadOnly,
      keyTokens name ++ ((if isRequired then [] else [.mark '?']) ++ .mark ':' :: rest)) := by
  -- A key that is a single word may be the word for read-only members; no other key can.
  have shape : keyTokens name = [.mark '[', .word "key", .mark ':', .word "string", .mark ']'] ∨
      ∃ s, keyTokens name = [.word s] ∨ keyTokens name = [.text s] := by
    obtain ⟨s, rfl, -⟩ := readable
    by_cases index : s = "[key: string]"
    · exact .inl (by simp [keyTokens, index])
    · refine .inr ⟨s, ?_⟩
      by_cases plain : Name.isPlain s.toList <;> simp [keyTokens, index, plain]
  cases isReadOnly with
  | true => rcases shape with same | ⟨s, same | same⟩ <;> simp [headTokens, same, modifier]
  | false =>
    rcases shape with same | ⟨s, same | same⟩
    · simp [headTokens, same, modifier]
    · -- A key is followed by a question mark or a colon.
      by_cases word : s = "readonly"
      · subst word
        cases isRequired <;> simp [headTokens, same, modifier]
      · simp [headTokens, same, modifier, word]
    · simp [headTokens, same, modifier]

/-- The head of a member is read back up to its type. -/
theorem memberHead?_headTokens {name : Value} (readable : ReadableKey name) (isRequired isReadOnly : Bool)
    (rest : List Token) :
    memberHead? (headTokens name isRequired isReadOnly ++ rest)
      = some ({ name, type := (), isRequired, isReadOnly }, rest) := by
  have modified := modifier_headTokens readable isRequired isReadOnly rest
  obtain ⟨s, rfl, found⟩ := key?_keyTokens readable
    ((if isRequired then [] else [.mark '?']) ++ .mark ':' :: rest)
  -- The question mark is there if the member may be left out.
  cases isRequired <;> simp_all [memberHead?]

/-- Members are read back one by one up to the closing brace. -/
theorem members?_tokensOfMembers {members : List (Member TypeExpr)}
    (keys : ∀ m ∈ members, ReadableKey m.name)
    (each : ∀ m ∈ members, m.type.Readable ∧ ReadsBack m.type) (rest : List Token) :
    members? ((tokensOfMembers members).flatten ++ .mark '\x7d' :: rest)
      = some (TypeExpr.flattenedMembers members, rest) := by
  induction members with
  | nil => simp [tokensOfMembers, members?, TypeExpr.flattenedMembers]
  | cons member others ih =>
    obtain ⟨name, type, isRequired, isReadOnly, comment⟩ := member
    obtain ⟨(key : ReadableKey name), keys⟩ := List.forall_mem_cons.mp keys
    obtain ⟨⟨(readable : type.Readable), (first : ReadsBack type)⟩, each⟩ := List.forall_mem_cons.mp each
    have goesOn := ih keys each
    -- The head is read up to the type, and the type up to the semicolon.
    let after := (tokensOfMembers others).flatten ++ .mark '\x7d' :: rest
    have headRead := memberHead?_headTokens key isRequired isReadOnly (typeTokens type ++ .mark ';' :: after)
    have found := first.alternatives (.mark ';' :: after) (by simp [Avoids])
    rw [moreAlternatives_eq (by simp)] at found
    have shorter := length_lt_of_readable readable (.mark ';' :: after)
    have headed : 0 < (headTokens name isRequired isReadOnly).length := by
      simp only [headTokens, List.length_append, List.length_cons]
      omega
    have whole : (headTokens name isRequired isReadOnly ++ (typeTokens type ++ .mark ';' :: after)).length
        = (headTokens name isRequired isReadOnly).length + (typeTokens type ++ .mark ';' :: after).length :=
      List.length_append
    have all := members?_of_memberHead? headRead found (by omega)
      (by simp only [List.length_cons] at shorter; omega) goesOn
    simpa [tokensOfMembers, readable.decomposes.union, TypeExpr.flattenedMembers, withType, after] using all

/-- The tokens of every type that can be read are read back. -/
theorem readsBack {type : TypeExpr} (readable : type.Readable) : ReadsBack type := by
  induction readable with
  | @reference name args legal noTruth each ih =>
    refine .of_operand (.reference legal noTruth each) rfl fun rest stop => ?_
    cases args with
    | nil =>
      -- Neither of the truth values is a name of a type.
      have named : wordType name = .reference name [] := by
        simp only [List.mem_cons, List.not_mem_nil, or_false, not_or] at noTruth
        simp [wordType, noTruth]
      have found := operand?_word name stop
      rwa [named] at found
    | cons first others =>
      have found := arguments?_separated (List.cons_ne_nil _ _) (fun t mem => ⟨each t mem, ih t mem⟩) rest
      simp [typeTokens, operand?, found, TypeExpr.flattened]
  | text s =>
    refine .of_operand (.text s) rfl fun rest _ => ?_
    simp [typeTokens, literalToken, operand?, TypeExpr.flattened]
  | int n =>
    refine .of_operand (.int n) rfl fun rest _ => ?_
    simp [typeTokens, literalToken, operand?, TypeExpr.flattened]
  | bool b =>
    refine .of_operand (.bool b) rfl fun rest stop => ?_
    cases b with
    | false => exact operand?_word "false" stop
    | true => exact operand?_word "true" stop
  | null => exact .of_operand .null rfl fun rest stop => operand?_word "null" stop
  | @array element each ih =>
    refine .of_operand (.array each) rfl fun rest stop => ?_
    -- The brackets of the list are the first ones after its element.
    have goesOn : Avoids ['<'] (.mark '[' :: .mark ']' :: rest) := by simp [Avoids]
    have found := ih.operand_element each goesOn
    simpa [typeTokens, brackets, TypeExpr.flattened] using found
  | @union types several each ih =>
    have long : 1 < types.length := several
    have nonempty : types ≠ [] := List.length_pos_iff.mp (by omega)
    refine ⟨fun alone => ?_, fun single => ?_, fun rest stop => ?_⟩
    · simp [TypeExpr.isCompound, long] at alone
    · simp [TypeExpr.isAlternative, long] at single
    · exact alternatives?_separated nonempty ih stop
  | @intersection types several each ih =>
    have long : 1 < types.length := several
    have nonempty : types ≠ [] := List.length_pos_iff.mp (by omega)
    have parts := fun rest (stop : Avoids ['<', '['] rest) =>
      parts?_separated nonempty (fun t mem => ⟨each t mem, ih t mem⟩) stop
    refine ⟨fun alone => ?_, fun _ => parts, fun rest stop => ?_⟩
    · simp [TypeExpr.isCompound, long] at alone
    · exact alternatives?_typeTokens (.intersection several each) rfl parts stop
  | @object members keys silent each ih =>
    refine .of_operand (.object keys silent each) rfl fun rest stop => ?_
    have found := members?_tokensOfMembers keys (fun m mem => ⟨each m mem, ih m mem⟩) rest
    simp [typeTokens, operand?, found, TypeExpr.flattened]

/-- The text of a type expression is read back as that type, flattened, at whatever depth it is written. -/
theorem readType?_printType {type : TypeExpr} (readable : type.Readable) (level : Nat) :
    ∃ text, printType type level = .ok text ∧ readType? text = some type.flattened := by
  obtain ⟨text, printed, spelled⟩ := printType_spells readable level
  refine ⟨text, printed, ?_⟩
  -- Nothing follows the text, neither a character that goes on with it nor a further token.
  have tokens : tokens? text.toList = some (typeTokens type) := by
    have whole := spelled [] (by simp [Ends])
    simpa using whole
  have found := (readsBack readable).alternatives [] (by simp [Avoids])
  rw [List.append_nil, moreAlternatives_eq (by simp)] at found
  simp [readType?, tokens, found, readable.decomposes.union]

/-- A list of an intersection with a union inside, whose text needs parentheses twice. -/
theorem readType?_printType_nested :
    let size : TypeExpr := .union [.literal (.int (-1)), .literal .null]
    let item : TypeExpr := .object [{ name := "it's", type := .array size, isRequired := false }]
    let type : TypeExpr :=
      .array (.intersection [.reference "Page" [item], .union [.reference "A" [], size]])
    ∃ text, printType type 1 = .ok text ∧ readType? text = some type.flattened := by
  intro size item type
  have sizeReadable : size.Readable := .union (by decide) (by simp [TypeExpr.Readable.int, TypeExpr.Readable.null])
  have itemReadable : item.Readable := by
    refine .object ?_ ?_ ?_
    · simp only [List.forall_mem_singleton]
      exact ⟨"it's", rfl, .inr (by decide)⟩
    · simp
    · simpa using TypeExpr.Readable.array sizeReadable
  have page : (TypeExpr.reference "Page" [item]).Readable :=
    .reference (by decide) (by decide) (by simpa using itemReadable)
  have named : (TypeExpr.reference "A" []).Readable := .reference (by decide) (by decide) (by simp)
  have alternatives : (TypeExpr.union [.reference "A" [], size]).Readable :=
    .union (by decide) (by simp [named, sizeReadable])
  exact readType?_printType (.array (.intersection (by decide) (by simp [page, alternatives]))) 1

end TypeScript

end TypedClient
