import TypedClient.Number.Shortest
import TypedClient.Proofs.Text.Digit
import TypedClient.Proofs.TypeScript.ValueRoundTrip

/-! The keys of object types and of object literals, and the names of properties that they denote. -/

namespace TypedClient.TypeScript

/-- The digits of a number with its point behind the first `point` ones, or with a power of ten if the point
would be far from them. -/
def numberLayout (digits : List Char) (point : Int) : List Char :=
  if digits.length ≤ point ∧ point ≤ 21 then digits ++ List.replicate (point - digits.length).toNat '0'
  else if 0 < point ∧ point ≤ 21 then digits.take point.toNat ++ '.' :: digits.drop point.toNat
  else if -6 < point ∧ point ≤ 0 then '0' :: '.' :: List.replicate (-point).toNat '0' ++ digits
  else
    let fraction := if digits.tail.isEmpty then [] else '.' :: digits.tail
    let sign := if 0 < point then '+' else '-'
    digits.take 1 ++ fraction ++ ['e', sign] ++ Double.digitText (point - 1).natAbs

/-- The name of the property that a number stands for as a key: the fewest digits that read back as it. -/
def numberText (x : Double) : String :=
  match x.value with
  | .nan => "NaN"
  | .infinite negative => if negative then "-Infinity" else "Infinity"
  | .finite negative mantissa exponent =>
    -- Zero has the same name with either sign.
    if mantissa = 0 then "0"
    else
      let (digits, tens) := Double.shortestDigits mantissa exponent
      let written := Double.digitText digits
      let unsigned := numberLayout written (written.length + tens)
      String.ofList (if negative then '-' :: unsigned else unsigned)

/-- A text is a whole integer literal: decimal digits, of which the first is zero only if it is the only one. -/
structure IsIntegerLiteral (text : String) : Prop where
  nonempty : text ≠ ""
  digits : ∀ c ∈ text.toList, c.isDigit = true
  leading : text.toList.head? = some '0' → text = "0"

/-- The number that an integer literal stands for: the double nearest to the integer. -/
def integerValue (text : String) : Double :=
  .ofInt (Nat.ofDigitChars 10 text.toList 0)

/-- A key is a legal one and denotes the property of the given name. -/
inductive Denotes (key name : String) : Prop
  /-- A name that is legal without quotes denotes itself. -/
  | identifier (legal : isIdentifierName name = true) (same : key = name)
  /-- A number denotes the property whose name is the text of the number. -/
  | integer (literal : IsIntegerLiteral key) (canonical : numberText (integerValue key) = name)
  /-- A text in quotes denotes the text. -/
  | text {quote : Char} (literal : IsStringLiteral quote key name)

/-- A text is a name of ASCII characters that is legal without quotes. -/
structure IsAsciiName (text : String) : Prop where
  legal : isIdentifierName text = true
  ascii : ∀ c ∈ text.toList, c.toNat < 128

/-- What decides whether a key denotes its text: no line feed hides behind a name, and what consists of digits
of any script is an integer literal that is written as its number is. -/
structure IsFaithfulKey (s : String) : Prop where
  line : ¬ ∃ name, IsAsciiName name ∧ s = name ++ "\n"
  number : s ≠ "" → (∀ c ∈ s.toList, Text.isDigit c = true) →
    IsIntegerLiteral s ∧ numberText (integerValue s) = s

/-- Among ASCII characters, those of plain names are those of all names. -/
theorem isPlain_of_ascii {c : Char} (ascii : c.toNat < 128) :
    Name.isPlainStart c = Text.isIdentifierStart c ∧ Name.isPlainPart c = Text.isIdentifierPart c := by
  refine Text.of_codes (P := fun c => Name.isPlainStart c = Text.isIdentifierStart c ∧
    Name.isPlainPart c = Text.isIdentifierPart c) ?_ ascii
  decide +kernel

section Names

variable {s : String}

/-- The names of ASCII characters are those that are looked for among keys. -/
theorem isAsciiName_iff (cs : List Char) : IsAsciiName (String.ofList cs) ↔
    ∃ c rest, cs = c :: rest ∧ Name.isPlainStart c = true ∧ ∀ d ∈ rest, Name.isPlainPart d = true := by
  constructor
  · rintro ⟨legal, ascii⟩
    rw [isIdentifierName, String.toList_ofList] at legal
    rw [String.toList_ofList] at ascii
    cases cs with
    | nil => cases legal
    | cons c rest =>
      obtain ⟨start, parts⟩ := Bool.and_eq_true_iff.mp legal
      obtain ⟨first, others⟩ := List.forall_mem_cons.mp ascii
      refine ⟨c, rest, rfl, (isPlain_of_ascii first).1.trans start, fun d mem => ?_⟩
      exact (isPlain_of_ascii (others d mem)).2.trans (List.all_eq_true.mp parts d mem)
  · rintro ⟨c, rest, rfl, start, parts⟩
    have first : Name.isPlainPart c = true := by simp [Name.isPlainPart, start]
    -- Plain characters are of ASCII, where the two tests agree.
    have ascii : ∀ d ∈ c :: rest, d.toNat < 128 := by
      refine List.forall_mem_cons.mpr ⟨lt_of_isPlainPart first, fun d mem => lt_of_isPlainPart (parts d mem)⟩
    refine ⟨?_, by simpa using ascii⟩
    rw [isIdentifierName, String.toList_ofList]
    obtain ⟨small, others⟩ := List.forall_mem_cons.mp ascii
    refine Bool.and_eq_true_iff.mpr ⟨(isPlain_of_ascii small).1.symm.trans start,
      List.all_eq_true.mpr fun d mem => ?_⟩
    exact (isPlain_of_ascii (others d mem)).2.symm.trans (parts d mem)

/-- All characters of a name go on with one. -/
theorem isIdentifierPart_of_mem (legal : isIdentifierName s = true) {c : Char} (mem : c ∈ s.toList) :
    Text.isIdentifierPart c = true := by
  rw [isIdentifierName] at legal
  split at legal
  · cases legal
  · next first rest same =>
    obtain ⟨start, parts⟩ := Bool.and_eq_true_iff.mp legal
    rw [same] at mem
    rcases List.mem_cons.mp mem with rfl | later
    · -- Whatever begins a name goes on with one as well.
      simp only [Text.isIdentifierStart, Bool.or_eq_true] at start
      rcases start with dollar | letter
      · simp [Text.isIdentifierPart, dollar]
      · simp [Text.isIdentifierPart, Text.isWordLike, letter]
    · exact List.all_eq_true.mp parts c later

/-- A name has no line feed. -/
theorem lineFeed_not_mem (legal : isIdentifierName s = true) : '\n' ∉ s.toList := by
  intro mem
  have part := isIdentifierPart_of_mem legal mem
  revert part
  decide

/-- A key counts as a plain name if it is one, or one with a line feed behind it. -/
theorem isPlain_iff : Name.isPlain s.toList = true ↔
    IsAsciiName s ∨ ∃ name, IsAsciiName name ∧ s = name ++ "\n" := by
  have plain : Name.isPlain s.toList = true ↔ IsAsciiName
      (String.ofList (if s.toList.getLast? == some '\n' then s.toList.dropLast else s.toList)) := by
    rw [isAsciiName_iff, Name.isPlain]
    generalize (if s.toList.getLast? == some '\n' then s.toList.dropLast else s.toList) = seen
    cases seen <;> simp
  rw [plain]
  by_cases last : s.toList.getLast? = some '\n'
  · -- The line feed at the end goes unseen, so the text before it is the name.
    obtain ⟨before, whole⟩ := List.getLast?_eq_some_iff.mp last
    have noName : ¬ IsAsciiName s := fun name => lineFeed_not_mem name.legal (by simp [whole])
    rw [if_pos (by simp [last]), whole, List.dropLast_concat, or_iff_right noName]
    constructor
    · intro name
      exact ⟨_, name, String.toList_inj.mp (by simpa using whole)⟩
    · rintro ⟨name, isName, rfl⟩
      have same : name.toList = before := by simpa using whole
      rwa [← same, String.ofList_toList]
  · have seen : (s.toList.getLast? == some '\n') = false := by simpa using last
    have ended : ¬ ∃ name, IsAsciiName name ∧ s = name ++ "\n" := by
      rintro ⟨name, -, rfl⟩
      simp at last
    rw [if_neg (by simp [seen]), String.ofList_toList, or_iff_left ended]

end Names

section Keys

variable {key s : String}

/-- A literal in quotes begins with one of them. -/
theorem head?_of_isStringLiteral {quote : Char} (literal : IsStringLiteral quote key s) :
    key.toList.head? = some '\x27' ∨ key.toList.head? = some '"' := by
  have read := literal.denotes
  unfold string? at read
  split at read
  · next same => simp [same]
  · next same => simp [same]
  · cases read

/-- A key with a line feed in it denotes nothing. -/
theorem not_denotes_of_lineFeed (mem : '\n' ∈ key.toList) : ¬ Denotes key s := by
  rintro (⟨legal, same⟩ | ⟨literal, -⟩ | literal)
  · exact lineFeed_not_mem legal (same ▸ mem)
  · have digit := literal.digits _ mem
    revert digit
    decide
  · -- No literal ends a line inside it.
    have ends := literal.singleLine _ mem
    revert ends
    decide

/-- A key of digits alone denotes its text exactly if it is an integer literal that is written as its number. -/
theorem denotes_of_digits_iff (nonempty : s ≠ "") (digits : ∀ c ∈ s.toList, Text.isDigit c = true) :
    Denotes s s ↔ IsIntegerLiteral s ∧ numberText (integerValue s) = s := by
  obtain ⟨first, rest, whole⟩ := List.exists_cons_of_ne_nil (mt String.toList_eq_nil_iff.mp nonempty)
  have digit := digits first (by simp [whole])
  constructor
  · rintro (⟨legal, -⟩ | ⟨literal, canonical⟩ | literal)
    · -- A digit does not begin a name.
      simp [isIdentifierName, whole, Text.isIdentifierStart_of_isDigit digit] at legal
    · exact ⟨literal, canonical⟩
    · have noQuote : first ≠ '\x27' ∧ first ≠ '"' :=
        ⟨Text.ne_of_isDigit digit (by decide), Text.ne_of_isDigit digit (by decide)⟩
      have quote := head?_of_isStringLiteral literal
      simp [whole, noQuote] at quote
  · rintro ⟨literal, canonical⟩
    exact .integer literal canonical

/-- A key denotes its text exactly if the text is a faithful key. -/
theorem denotes_escapeKey_iff (s : String) : Denotes (escapeKey s) s ↔ IsFaithfulKey s := by
  by_cases digits : s ≠ "" ∧ ∀ c ∈ s.toList, Text.isDigit c = true
  · -- Digits stand bare, and no line feed is one of them.
    obtain ⟨nonempty, each⟩ := digits
    have all : s.toList.all Text.isDigit = true := List.all_eq_true.mpr each
    have bare : escapeKey s = s := by simp [escapeKey, Name.isBareKey, nonempty, all]
    rw [bare, denotes_of_digits_iff nonempty each]
    refine ⟨fun faithful => ⟨?_, fun _ _ => faithful⟩, fun faithful => faithful.number nonempty each⟩
    rintro ⟨name, -, rfl⟩
    exact Text.ne_of_isDigit (each '\n' (by simp)) (by decide) rfl
  · have number : s ≠ "" → (∀ c ∈ s.toList, Text.isDigit c = true) →
        IsIntegerLiteral s ∧ numberText (integerValue s) = s :=
      fun nonempty each => absurd ⟨nonempty, each⟩ digits
    by_cases plain : Name.isPlain s.toList = true
    · have bare : escapeKey s = s := by simp [escapeKey, Name.isBareKey, plain]
      rw [bare]
      obtain name | ⟨name, isName, rfl⟩ := isPlain_iff.mp plain
      · refine iff_of_true (.identifier name.legal rfl) ⟨?_, number⟩
        rintro ⟨before, -, rfl⟩
        exact lineFeed_not_mem name.legal (by simp)
      · exact iff_of_false (not_denotes_of_lineFeed (by simp)) fun faithful => faithful.line ⟨name, isName, rfl⟩
    · -- Any other text is put in quotes.
      have quoted : escapeKey s = quoteText (String.singleton '\x27') s := by
        have noDigits : (!s.toList.isEmpty && s.toList.all Text.isDigit) = false := by
          simpa using digits
        rw [escapeKey, Name.isBareKey, noDigits, Bool.or_false, if_neg plain]
        rfl
      rw [quoted]
      exact iff_of_true (.text (isStringLiteral_quoted (.inl rfl) s))
        ⟨fun hidden => plain (isPlain_iff.mpr (.inr hidden)), number⟩

/-- A key that begins with a bracket denotes nothing. -/
theorem not_denotes_of_bracket (bracket : key.toList.head? = some '[') : ¬ Denotes key s := by
  obtain ⟨rest, whole⟩ := List.head?_eq_some_iff.mp bracket
  rintro (⟨legal, rfl⟩ | ⟨literal, -⟩ | literal)
  · rw [isIdentifierName, whole] at legal
    exact absurd (Bool.and_eq_true_iff.mp legal).1 (by decide)
  · exact absurd (literal.digits '[' (by simp [whole])) (by decide)
  · have quote := head?_of_isStringLiteral literal
    simp [whole] at quote

/-- The key for a member of the given name. -/
def memberKey (s : String) : String :=
  if s.toList.head? = some '[' then s else escapeKey s

/-- The key of a member denotes its name exactly if the name is a faithful key and begins with no bracket. -/
theorem denotes_memberKey_iff (s : String) :
    Denotes (memberKey s) s ↔ s.toList.head? ≠ some '[' ∧ IsFaithfulKey s := by
  rw [memberKey]
  split
  · next bracket => exact iff_of_false (not_denotes_of_bracket bracket) fun faithful => faithful.1 bracket
  · next other => simp [other, denotes_escapeKey_iff]

/-- Every member of the given name is printed with the key in the place of its name. -/
def PrintsMemberKey (s key : String) : Prop :=
  ∀ (member : Member TypeExpr) (level : Nat), member.name = .text s →
    printMember member level = (do
      let type ← printType member.type level
      return memberLine key member.isRequired member.isReadOnly member.comment level type)

/-- In every printed map, the value under the given key stands on a line of its own behind the printed key. -/
def PrintsValueKey (s key : String) : Prop :=
  ∀ (before after : Members) (value : Value) (level : Nat),
    printValue (.map (before ++ (.text s, value) :: after)) level = (do
      let first ← printMembers before (level + 1)
      let text ← printValue value (level + 1)
      let last ← printMembers after (level + 1)
      let line := indent (level + 1) ++ key ++ ": " ++ text ++ ","
      return braced ("\n" ++ joinLines (first ++ line :: last) ++ "\n" ++ indent level))

/-- A member of a name is printed with the key for the name. -/
theorem printsMemberKey (s : String) : PrintsMemberKey s (memberKey s) := by
  intro member level named
  have key : printKey member.name = .ok (memberKey s) := by
    simp [named, printKey, Value.asText, memberKey]
  rw [printMember, key]
  rfl

/-- A map with at least one member is printed with a line for each of them. -/
theorem printValue_map {members : Members} (some : members ≠ []) (level : Nat) :
    printValue (.map members) level = (do
      let lines ← printMembers members (level + 1)
      return braced ("\n" ++ joinLines lines ++ "\n" ++ indent level)) := by
  cases members with
  | nil => exact absurd rfl some
  | cons => rw [printValue]; simp

/-- The lines of members follow one another. -/
theorem printMembers_append (before after : Members) (level : Nat) :
    printMembers (before ++ after) level = (do
      let first ← printMembers before level
      let last ← printMembers after level
      return first ++ last) := by
  simp only [printMembers_eq_mapM, List.mapM_append]

/-- A value under a text is printed behind the key for the text. -/
theorem printsValueKey (s : String) : PrintsValueKey s (escapeKey s) := by
  intro before after value level
  rw [printValue_map (by simp), printMembers_append, printMembers]
  simp only [bind_assoc, pure_bind]
  rfl

/-- The key of a member and the key of a printed value denote the text that they are made of exactly if no line
feed hides behind a name and digits are an integer literal that is written as its number is; for a member, the
text may not begin with a bracket either. -/
theorem denotes_iff (s : String) : ∃ ofMember ofValue,
    PrintsMemberKey s ofMember ∧ PrintsValueKey s ofValue ∧
      (Denotes ofMember s ↔ s.toList.head? ≠ some '[' ∧ IsFaithfulKey s) ∧
      (Denotes ofValue s ↔ IsFaithfulKey s) :=
  ⟨memberKey s, escapeKey s, printsMemberKey s, printsValueKey s, denotes_memberKey_iff s,
    denotes_escapeKey_iff s⟩

/-- Digits that begin with a zero stand bare, though no such literal is legal. -/
theorem not_denotes_of_leadingZeros : ∃ ofMember ofValue,
    PrintsMemberKey "007" ofMember ∧ PrintsValueKey "007" ofValue ∧
      ¬ Denotes ofMember "007" ∧ ¬ Denotes ofValue "007" := by
  have unfaithful : ¬ IsFaithfulKey "007" := by
    intro faithful
    have ⟨literal, _⟩ := faithful.number (by decide) (List.all_eq_true.mp (by decide))
    exact absurd (literal.leading (by decide)) (by decide)
  refine ⟨memberKey "007", escapeKey "007", printsMemberKey _, printsValueKey _, ?_, ?_⟩
  · exact fun denotes => unfaithful ((denotes_memberKey_iff _).mp denotes).2
  · exact fun denotes => unfaithful ((denotes_escapeKey_iff _).mp denotes)

end Keys

end TypedClient.TypeScript
