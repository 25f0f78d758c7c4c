import TypedClient.Name.EnumMember
import TypedClient.Text.Percent

/-! String literals of TypeScript, read back as the texts that they denote. -/

namespace TypedClient.TypeScript

/-- A character that ends a line, and may stand in a string literal only as an escape. -/
def isLineEnd (c : Char) : Bool :=
  c == '\n' || c == '\r' || c == '\u2028' || c == '\u2029'

/-- The character that a letter or mark denotes after a backslash, unless it begins a longer escape. -/
def escapedBy? (c : Char) : Option Char :=
  match c with
  | 'n' => some '\n'
  | 'r' => some '\r'
  | 't' => some '\t'
  | 'b' => some '\x08'
  | 'f' => some '\x0c'
  | 'v' => some '\x0b'
  -- Digits and these two letters begin escapes by number; a line end is left out of the text.
  | c => if c == 'x' || c == 'u' || ('0' ≤ c && c ≤ '9') || isLineEnd c then none else some c

/-- The character with the code that four hexadecimal digits denote; half of a pair is none. -/
def codeEscape? (a b c d : Char) : Option Char := do
  let high ← Text.hexByte? a b
  let low ← Text.hexByte? c d
  let code := 0x100 * high + low
  if Text.isHalf code then none else some (Char.ofNat code)

/-- What has been read of a text, with a character in front of it. -/
def withFirst (c : Char) (read : Option (List Char × List Char)) : Option (List Char × List Char) :=
  read.map fun (cs, after) => (c :: cs, after)

/-- The text that a string literal denotes from after its opening quote, and what follows the literal. -/
def stringRest (quote : Char) : List Char → Option (List Char × List Char)
  | [] => none
  -- An escape by number is told from one of a letter by what follows the backslash.
  | '\\' :: 'u' :: a :: b :: c :: d :: rest =>
    (codeEscape? a b c d).bind fun char => withFirst char (stringRest quote rest)
  | '\\' :: letter :: rest =>
    (escapedBy? letter).bind fun char => withFirst char (stringRest quote rest)
  | c :: rest =>
    if c == quote then some ([], rest)
    -- A backslash with nothing behind it, or the end of a line, is no part of a literal.
    else if c == '\\' || isLineEnd c then none
    else withFirst c (stringRest quote rest)

/-- The text that a string literal at the start of the given text denotes, and what follows it. -/
def string? : List Char → Option (List Char × List Char)
  | '\x27' :: rest => stringRest '\x27' rest
  | '"' :: rest => stringRest '"' rest
  | _ => none

variable {quote : Char}

/-- A character in front of what is read is the first character of it. -/
theorem withFirst_eq_some {c : Char} {read : Option (List Char × List Char)} {cs rest : List Char} :
    withFirst c read = some (cs, rest) ↔ ∃ inner, read = some (inner, rest) ∧ cs = c :: inner := by
  -- What follows the text is the same with the character and without it.
  simp only [withFirst, Option.map_eq_some_iff, Prod.exists, Prod.mk.injEq]
  constructor
  · rintro ⟨inner, _, found, rfl, rfl⟩
    exact ⟨inner, found, rfl⟩
  · rintro ⟨inner, found, rfl⟩
    exact ⟨inner, rest, found, rfl, rfl⟩

/-- What follows the inside of a literal is shorter than the text. -/
theorem length_of_stringRest {text cs rest : List Char}
    (found : stringRest quote text = some (cs, rest)) : rest.length < text.length := by
  -- Each step of the reading leaves less, and the last one takes the closing quote.
  fun_induction stringRest quote text generalizing cs with
  | case1 => cases found
  | case2 a b c d after ih =>
    obtain ⟨_, -, read⟩ := Option.bind_eq_some_iff.mp found
    obtain ⟨inner, read, -⟩ := withFirst_eq_some.mp read
    have shorter := ih read
    simp only [List.length_cons]
    omega
  | case3 letter after _ ih =>
    obtain ⟨_, -, read⟩ := Option.bind_eq_some_iff.mp found
    obtain ⟨inner, read, -⟩ := withFirst_eq_some.mp read
    have shorter := ih read
    simp only [List.length_cons]
    omega
  | case4 =>
    cases found
    simp
  | case5 => cases found
  | case6 c after _ _ _ _ ih =>
    obtain ⟨inner, read, -⟩ := withFirst_eq_some.mp found
    have shorter := ih read
    simp only [List.length_cons]
    omega

/-- What follows a literal is shorter than the text. -/
theorem length_of_string? {text cs rest : List Char} (found : string? text = some (cs, rest)) :
    rest.length < text.length := by
  -- The opening quote is one more character that is not left.
  unfold string? at found
  split at found
  · have shorter := length_of_stringRest found
    simp only [List.length_cons]
    omega
  · have shorter := length_of_stringRest found
    simp only [List.length_cons]
    omega
  · cases found

/-- A character that needs no escape is read as itself. -/
theorem stringRest_cons {c : Char} (other : c ≠ quote) (plain : c ≠ '\\') (inside : isLineEnd c = false)
    (rest : List Char) :
    stringRest quote (c :: rest) = withFirst c (stringRest quote rest) := by
  -- The character decides for the last equation, as the others begin with a backslash.
  rw [stringRest]
  · simp [other, plain, inside]
  all_goals simp [plain]

/-- An escape of one letter or mark is read as the character that it denotes. -/
theorem stringRest_escape {letter c : Char} (denotes : escapedBy? letter = some c) (rest : List Char) :
    stringRest quote ('\\' :: letter :: rest) = withFirst c (stringRest quote rest) := by
  rw [stringRest]
  · simp [denotes]
  · -- The letter of an escape by number denotes nothing alone.
    rintro a b c d after rfl
    simp [escapedBy?] at denotes

/-- An escape by number is read as the character with that code. -/
theorem stringRest_codeEscape {a b c d char : Char} (denotes : codeEscape? a b c d = some char)
    (rest : List Char) :
    stringRest quote ('\\' :: 'u' :: a :: b :: c :: d :: rest)
      = withFirst char (stringRest quote rest) := by
  simp [stringRest, denotes]

/-- How a character stands inside a literal between the quotes. -/
inductive StandsAs (quote c : Char) : List Char → Prop
  /-- Most characters stand for themselves. -/
  | plain (other : c ≠ quote) (solid : c ≠ '\\') (inside : isLineEnd c = false) : StandsAs quote c [c]
  /-- Some are a letter or mark behind a backslash. -/
  | escape {letter : Char} (denotes : escapedBy? letter = some c) : StandsAs quote c ['\\', letter]
  /-- The two separators that no letter denotes are written by their numbers. -/
  | code {last : Char} (digit : last ∈ ['8', '9']) (denotes : codeEscape? '2' '0' '2' last = some c) :
      StandsAs quote c ['\\', 'u', '2', '0', '2', last]

/-- Escaping makes a character stand as it should. -/
theorem standsAs_escaped (isQuote : quote = '\x27' ∨ quote = '"') (c : Char) :
    StandsAs quote c (Text.escaped [quote] c) := by
  unfold Text.escaped Text.escapeMark?
  by_cases same : quote = c
  · subst same
    have denotes : escapedBy? quote = some quote := by rcases isQuote with rfl | rfl <;> rfl
    simpa using StandsAs.escape denotes
  -- From here on, the character is no quote, so only the other escapes are left.
  by_cases backslash : c = '\\'
  · subst backslash
    have stands : StandsAs quote '\\' ['\\', '\\'] := .escape rfl
    simpa [same] using stands
  by_cases lineFeed : c = '\n'
  · subst lineFeed
    have stands : StandsAs quote '\n' ['\\', 'n'] := .escape rfl
    simpa [same] using stands
  by_cases carriageReturn : c = '\r'
  · subst carriageReturn
    have stands : StandsAs quote '\r' ['\\', 'r'] := .escape rfl
    simpa [same] using stands
  by_cases tab : c = '\t'
  · subst tab
    have stands : StandsAs quote '\t' ['\\', 't'] := .escape rfl
    simpa [same] using stands
  by_cases lineSeparator : c = '\u2028'
  · subst lineSeparator
    have stands : StandsAs quote '\u2028' ['\\', 'u', '2', '0', '2', '8'] := .code (by decide) rfl
    simpa [same] using stands
  by_cases paragraphSeparator : c = '\u2029'
  · subst paragraphSeparator
    have stands : StandsAs quote '\u2029' ['\\', 'u', '2', '0', '2', '9'] := .code (by decide) rfl
    simpa [same] using stands
  have inside : isLineEnd c = false := by
    simp [isLineEnd, lineFeed, carriageReturn, lineSeparator, paragraphSeparator]
  simpa [same, backslash, lineFeed, carriageReturn, tab, lineSeparator, paragraphSeparator]
    using StandsAs.plain (Ne.symm same) backslash inside

/-- A character as it stands inside a literal is read as itself. -/
theorem stringRest_standsAs {c : Char} {cs : List Char} (stands : StandsAs quote c cs)
    (rest : List Char) : stringRest quote (cs ++ rest) = withFirst c (stringRest quote rest) := by
  cases stands with
  | plain other solid inside => exact stringRest_cons other solid inside rest
  | escape denotes => exact stringRest_escape denotes rest
  | code _ denotes => exact stringRest_codeEscape denotes rest

/-- The inside of a literal is read up to its closing quote as the text that was put in quotes. -/
theorem stringRest_flatMap (isQuote : quote = '\x27' ∨ quote = '"') (cs rest : List Char) :
    stringRest quote (cs.flatMap (Text.escaped [quote]) ++ quote :: rest) = some (cs, rest) := by
  -- The closing quote ends the reading, and each character before it is one step of it.
  induction cs with
  | nil => rcases isQuote with rfl | rfl <;> simp [stringRest]
  | cons c cs ih =>
    rw [List.flatMap_cons, List.append_assoc, stringRest_standsAs (standsAs_escaped isQuote c), ih]
    rfl

/-- A string literal in front of any text is read as the text that was put in quotes. -/
theorem string?_quoted (isQuote : quote = '\x27' ∨ quote = '"') (cs rest : List Char) :
    string? (Text.quoted [quote] cs ++ rest) = some (cs, rest) := by
  have read := stringRest_flatMap isQuote cs rest
  -- The literal opens with the quote that closes it.
  rcases isQuote with rfl | rfl <;> simpa [Text.quoted, string?] using read

/-- What follows the first quote that no backslash escapes, if there is one. -/
def afterQuote? (quote : Char) : List Char → Option (List Char)
  | [] => none
  -- A backslash takes the next character with it, whatever that is.
  | '\\' :: _ :: rest => afterQuote? quote rest
  | c :: rest => if c == quote then some rest else afterQuote? quote rest

/-- A text is a whole string literal on a single line, and denotes the given text. -/
structure IsStringLiteral (quote : Char) (text denoted : String) : Prop where
  /-- It begins with the quote, and the next one that is not escaped is its last character. -/
  closed : ∃ inner, text.toList = quote :: inner ∧ afterQuote? quote inner = some []
  /-- No character in it ends a line. -/
  singleLine : ∀ c ∈ text.toList, isLineEnd c = false
  /-- With its escapes undone, it is the text that it denotes. -/
  denotes : string? text.toList = some (denoted.toList, [])

/-- A character other than the quote and the backslash does not close a literal. -/
theorem afterQuote?_cons {c : Char} (other : c ≠ quote) (solid : c ≠ '\\') (rest : List Char) :
    afterQuote? quote (c :: rest) = afterQuote? quote rest := by
  rw [afterQuote?]
  · simp [other]
  · simp [solid]

/-- A character as it stands inside a literal does not close it. -/
theorem afterQuote?_standsAs {c : Char} {cs : List Char} (isQuote : quote = '\x27' ∨ quote = '"')
    (stands : StandsAs quote c cs) (rest : List Char) :
    afterQuote? quote (cs ++ rest) = afterQuote? quote rest := by
  cases stands with
  | plain other solid _ => exact afterQuote?_cons other solid rest
  | escape => rfl
  | @code last digit _ =>
    -- Behind the backslash and the letter, no digit is a quote or a backslash.
    have digits : ∀ d ∈ ['2', '0', '8', '9'], d ≠ quote ∧ d ≠ '\\' := by
      rcases isQuote with rfl | rfl <;> simp
    have step {d : Char} (mem : d ∈ ['2', '0', '8', '9']) (rest : List Char) :
        afterQuote? quote (d :: rest) = afterQuote? quote rest :=
      afterQuote?_cons (digits d mem).1 (digits d mem).2 rest
    have isLast : last ∈ ['2', '0', '8', '9'] := List.mem_cons_of_mem _ (List.mem_cons_of_mem _ digit)
    calc afterQuote? quote ('\\' :: 'u' :: '2' :: '0' :: '2' :: last :: rest)
        = afterQuote? quote ('2' :: '0' :: '2' :: last :: rest) := rfl
      _ = afterQuote? quote rest := by
        rw [step (by decide), step (by decide), step (by decide), step isLast]

/-- Up to the quote behind it, nothing closes the inside of a literal. -/
theorem afterQuote?_flatMap (isQuote : quote = '\x27' ∨ quote = '"') (cs rest : List Char) :
    afterQuote? quote (cs.flatMap (Text.escaped [quote]) ++ quote :: rest) = some rest := by
  -- The quote at the end is met when each character before it has been passed over.
  induction cs with
  | nil => rcases isQuote with rfl | rfl <;> rfl
  | cons c cs ih =>
    rw [List.flatMap_cons, List.append_assoc, afterQuote?_standsAs isQuote (standsAs_escaped isQuote c), ih]

/-- A character as it stands inside a literal ends no line. -/
theorem isLineEnd_of_standsAs {c d : Char} {cs : List Char} (stands : StandsAs quote c cs)
    (mem : d ∈ cs) : isLineEnd d = false := by
  cases stands with
  | plain _ _ inside =>
    cases List.mem_singleton.mp mem
    exact inside
  | @escape letter denotes =>
    simp only [List.mem_cons, List.not_mem_nil, or_false] at mem
    rcases mem with rfl | rfl
    · rfl
    · -- The end of a line behind a backslash denotes nothing.
      rw [Bool.eq_false_iff]
      intro ends
      simp only [isLineEnd, Bool.or_eq_true, beq_iff_eq] at ends
      rcases ends with ((rfl | rfl) | rfl) | rfl <;> cases denotes
  | code digit _ =>
    have listed : ∀ e ∈ ['\\', 'u', '2', '0', '8', '9'], isLineEnd e = false := by simp [isLineEnd]
    refine listed d ?_
    simp only [List.mem_cons, List.not_mem_nil, or_false] at mem digit ⊢
    grind

/-- A text put in quotes is a string literal that denotes it. -/
theorem isStringLiteral_quoted (isQuote : quote = '\x27' ∨ quote = '"') (s : String) :
    IsStringLiteral quote (quoteText (String.singleton quote) s) s := by
  have written : (quoteText (String.singleton quote) s).toList
      = quote :: (s.toList.flatMap (Text.escaped [quote]) ++ [quote]) := by
    simp [quoteText, Text.quoted]
  have ends : isLineEnd quote = false := by rcases isQuote with rfl | rfl <;> rfl
  refine ⟨⟨_, written, afterQuote?_flatMap isQuote s.toList []⟩, ?_, ?_⟩
  · intro c mem
    -- A character of the literal is one of its quotes, or comes from a character of the text.
    simp only [written, List.mem_cons, List.mem_append, List.not_mem_nil, or_false,
      List.mem_flatMap] at mem
    rcases mem with rfl | ⟨d, -, inside⟩ | rfl
    · exact ends
    · exact isLineEnd_of_standsAs (standsAs_escaped isQuote d) inside
    · exact ends
  · have read := string?_quoted isQuote s.toList []
    simpa [quoteText] using read

/-- A text in quotes of either kind, and a text as a literal inside or outside a union, is a string
literal on a single line that denotes the text. -/
theorem isStringLiteral_of_text (isQuote : quote = '\x27' ∨ quote = '"') (s : String) (union : Bool) :
    IsStringLiteral quote (quoteText (String.singleton quote) s) s ∧
      IsStringLiteral (if union && s.toList.contains '\x27' then '"' else '\x27')
        (enumLiteral union (.text s)) s := by
  refine ⟨isStringLiteral_quoted isQuote s, ?_⟩
  -- The literal of an enum value is in double quotes if single ones would have to be escaped in a union.
  rw [enumLiteral]
  split
  · exact isStringLiteral_quoted (.inr rfl) s
  · exact isStringLiteral_quoted (.inl rfl) s

/-- A text with every character that needs an escape, a backslash before the closing quote. -/
theorem isStringLiteral_of_text_escapes :
    let s := "it's \"\n\r\t\u2028\u2029\\"
    ('"' = '\x27' ∨ '"' = '"') ∧ IsStringLiteral '"' (quoteText (String.singleton '"') s) s ∧
      IsStringLiteral '"' (enumLiteral true (.text s)) s := by
  intro s
  have holdsQuote : (true && s.toList.contains '\x27') = true := by decide
  have isQuote : '"' = '\x27' ∨ '"' = '"' := .inr rfl
  have both := isStringLiteral_of_text isQuote s true
  rw [if_pos holdsQuote] at both
  exact ⟨isQuote, both⟩

end TypedClient.TypeScript
