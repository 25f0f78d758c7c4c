import TypedClient.Proofs.TypeScript.StringLiteral
import TypedClient.Text.Identifier

/-! The tokens of TypeScript text: words, integers, string literals and marks, with blanks between them. -/

namespace TypedClient.TypeScript

/-- A token; a literal stands for what it denotes. -/
inductive Token
  | word (name : String)
  | number (n : Int)
  | text (s : String)
  | mark (c : Char)
  deriving DecidableEq, Repr

/-- Whether a name can stand as a word. -/
def isIdentifierName (name : String) : Bool :=
  match name.toList with
  | [] => false
  | c :: rest => Text.isIdentifierStart c && rest.all Text.isIdentifierPart

/-- The characters that are tokens by themselves. -/
def marks : List Char :=
  ['<', '>', '(', ')', '[', ']', '\x7b', '\x7d', '|', '&', ':', ';', ',', '?']

/-- The characters that may stand between tokens. -/
def blanks : List Char :=
  [' ', '\t', '\n', '\r']

/-- The integer without a sign at the start of a text, and what follows it. -/
def natural? (cs : List Char) : Option (Nat × List Char) :=
  match cs.takeWhile Char.isDigit, cs.dropWhile Char.isDigit with
  -- Where no digit stands, no number begins, and only zero itself begins with a zero.
  | [], _ | '0' :: _ :: _, _ => none
  -- No letter stands right behind the digits, as that of a power of ten or of another kind of number would.
  | digits, rest =>
    if rest.head?.any Text.isIdentifierPart then none else some (Nat.ofDigitChars 10 digits 0, rest)

/-- The token at the start of a text that begins with no blank, and what follows it. -/
def token? : List Char → Option (Token × List Char)
  | [] => none
  | c :: rest =>
    -- A word is as long as it can be.
    if Text.isIdentifierStart c then
      some (.word (String.ofList (c :: rest.takeWhile Text.isIdentifierPart)),
        rest.dropWhile Text.isIdentifierPart)
    else if marks.contains c then some (.mark c, rest)
    -- A sign belongs to the number that follows it without a gap.
    else if c == '-' then
      -- Behind a sign, zero would be another number than the integer.
      match natural? rest with
      | some (n + 1, after) => some (.number (.negSucc n), after)
      | _ => none
    else
      -- What is left is a literal in quotes or a number without a sign.
      match string? (c :: rest) with
      | some (cs, after) => some (.text (String.ofList cs), after)
      | none => (natural? (c :: rest)).map fun (n, after) => (.number n, after)

/-- What follows an integer is shorter than the text. -/
theorem length_of_natural? {text rest : List Char} {n : Nat} (found : natural? text = some (n, rest)) :
    rest.length < text.length := by
  unfold natural? at found
  split at found
  · cases found
  · cases found
  · next nonempty _ =>
    split at found
    · cases found
    · cases found
      -- The digits are a nonempty start of the text, and the rest is what follows them.
      have parts := congrArg List.length (List.takeWhile_append_dropWhile (p := Char.isDigit) (l := text))
      have positive := List.length_pos_iff.mpr nonempty
      rw [List.length_append] at parts
      omega

/-- What follows a token is shorter than the text. -/
theorem length_of_token? {text rest : List Char} {t : Token} (found : token? text = some (t, rest)) :
    rest.length < text.length := by
  cases text with
  | nil => cases found
  | cons c after =>
    -- A word takes its first character, and maybe some more.
    have shorter : ∀ p, (after.dropWhile p).length < (c :: after).length := by
      intro p
      have within := (List.dropWhile_sublist p (l := after)).length_le
      simp only [List.length_cons]
      omega
    rw [token?] at found
    split at found
    · cases found
      exact shorter _
    split at found
    · cases found
      simp
    split at found
    · split at found
      · next read =>
        cases found
        have shorter := length_of_natural? read
        simp only [List.length_cons]
        omega
      · cases found
    split at found
    · next read =>
      cases found
      exact length_of_string? read
    · obtain ⟨⟨n, _⟩, read, same⟩ := Option.map_eq_some_iff.mp found
      cases same
      exact length_of_natural? read

/-- The tokens that a text consists of, if it consists of tokens and blanks. -/
def tokens? (text : List Char) : Option (List Token) :=
  match text with
  | [] => some []
  | c :: rest =>
    -- Blanks only part tokens.
    if blanks.contains c then tokens? rest
    else
      match found : token? (c :: rest) with
      | some (t, after) =>
        have := length_of_token? found
        (tokens? after).map (t :: ·)
      | none => none
termination_by text.length
decreasing_by
  · exact Nat.lt_succ_self _
  · assumption

/-- An empty text has no tokens. -/
@[simp] theorem tokens?_nil : tokens? [] = some [] := by
  rw [tokens?]

/-- A text begins with a token, whose rest is made up of tokens too. -/
theorem tokens?_of_token? {text rest : List Char} {t : Token} (found : token? text = some (t, rest))
    (visible : ∀ c ∈ text.head?, c ∉ blanks) :
    tokens? text = (tokens? rest).map (t :: ·) := by
  -- The first character is no blank, so the token is what is read next.
  cases text with
  | nil => cases found
  | cons c after =>
    rw [tokens?, if_neg (by simp [visible c rfl])]
    split
    · next read =>
      cases found.symm.trans read
      rfl
    · next read => cases found.symm.trans read

/-- A blank is no part of a token. -/
theorem tokens?_blank {c : Char} (blank : c ∈ blanks) (rest : List Char) :
    tokens? (c :: rest) = tokens? rest := by
  rw [tokens?, if_pos (List.contains_iff_mem.mpr blank)]

/-- No word or number goes on at the start of the text. -/
def Ends (text : List Char) : Prop :=
  ∀ c ∈ text.head?, Text.isIdentifierPart c = false

/-- What is taken of a text is its first part, if the rest does not go on with such characters. -/
theorem span_append {p : Char → Bool} {cs rest : List Char} (all : ∀ c ∈ cs, p c = true)
    (stops : ∀ c ∈ rest.head?, p c = false) :
    (cs ++ rest).takeWhile p = cs ∧ (cs ++ rest).dropWhile p = rest := by
  -- Nothing is taken of the rest, whether there is any or not.
  have ended : rest.takeWhile p = [] ∧ rest.dropWhile p = rest := by
    cases rest with
    | nil => exact ⟨rfl, rfl⟩
    | cons d rest => simp [stops d rfl]
  rw [List.takeWhile_append_of_pos all, List.dropWhile_append_of_pos all, ended.1, ended.2,
    List.append_nil]
  exact ⟨rfl, rfl⟩

/-- A text that spells the given tokens, whatever text comes next that no token goes on in. -/
def Spells (text : List Char) (ts : List Token) : Prop :=
  ∀ rest, Ends rest → tokens? (text ++ rest) = (tokens? rest).map (ts ++ ·)

/-- A mark begins no word, and it is no blank. -/
theorem facts_of_mark {c : Char} (listed : c ∈ marks) :
    Text.isIdentifierStart c = false ∧ c ∉ blanks := by
  -- The marks are few enough to be looked at one by one.
  have facts : (marks.all fun c => !Text.isIdentifierStart c && !blanks.contains c) = true := by decide
  simpa using List.all_eq_true.mp facts c listed

/-- A blank begins no word. -/
theorem isIdentifierStart_of_blank {c : Char} (isBlank : c ∈ blanks) :
    Text.isIdentifierStart c = false := by
  -- So are the blanks.
  have facts : (blanks.all fun c => !Text.isIdentifierStart c) = true := by decide
  simpa using List.all_eq_true.mp facts c isBlank

namespace Spells

variable {cs ds : List Char} {ts us : List Token}

/-- An empty text spells nothing. -/
theorem nil : Spells [] [] := by
  intro rest _
  simp

/-- Two texts spell the tokens of both if no token of the first goes on in the second. -/
theorem append (first : Spells cs ts) (second : Spells ds us) (ends : Ends ds) :
    Spells (cs ++ ds) (ts ++ us) := by
  intro rest after
  -- The first text is followed by the second one, or by the rest if the second one is empty.
  have between : Ends (ds ++ rest) := by
    cases ds with
    | nil => exact after
    | cons d ds => exact ends
  rw [List.append_assoc, first _ between, second rest after, Option.map_map]
  simp [Function.comp_def]

/-- A blank in front of a text adds no token. -/
theorem blank {c : Char} (isBlank : c ∈ blanks) (rest : Spells cs ts) :
    Spells (c :: cs) ts := by
  intro after ends
  rw [List.cons_append, tokens?_blank isBlank, rest after ends]

/-- A mark in front of a text is a token of its own. -/
theorem mark {c : Char} (listed : c ∈ marks) (rest : Spells cs ts) :
    Spells (c :: cs) (.mark c :: ts) := by
  intro after ends
  obtain ⟨noWord, visible⟩ := facts_of_mark listed
  -- The mark itself is a whole token, whatever follows it.
  have found : token? (c :: (cs ++ after)) = some (.mark c, cs ++ after) := by
    simp [token?, noWord, listed]
  rw [List.cons_append, tokens?_of_token? found (by simpa using visible), rest after ends,
    Option.map_map]
  rfl

/-- A word is one token. -/
theorem word {name : String} (legal : isIdentifierName name = true) :
    Spells name.toList [.word name] := by
  intro rest ends
  unfold isIdentifierName at legal
  split at legal
  · cases legal
  · next c cs same =>
    obtain ⟨starts, parts⟩ := Bool.and_eq_true_iff.mp legal
    have parts := List.all_eq_true.mp parts
    -- A word begins with a letter, which is no blank.
    have visible : c ∉ blanks := by
      intro isBlank
      simp [isIdentifierStart_of_blank isBlank] at starts
    -- The word goes on to its own end, since no part of one follows.
    have found : token? (c :: (cs ++ rest)) = some (.word name, rest) := by
      obtain ⟨taken, left⟩ := span_append parts ends
      rw [token?, if_pos starts, taken, left, ← same, String.ofList_toList]
    rw [same, List.cons_append, tokens?_of_token? found (by simpa using visible)]
    rfl

/-- A digit can be part of a word, but it begins none, and it is no blank, mark, sign or quote. -/
theorem facts_of_isDigit {c : Char} (digit : c.isDigit = true) :
    Text.isIdentifierPart c = true ∧ Text.isIdentifierStart c = false ∧ c ∉ blanks ∧ c ∉ marks ∧
      c ∉ ['-', '\x27', '"'] := by
  obtain ⟨low, high⟩ := Char.isDigit_iff_toNat.mp digit
  -- The digits are a range of codes, which can be gone through.
  have facts : ∀ code < 58, 48 ≤ code → Text.isIdentifierPart (Char.ofNat code) = true ∧
      Text.isIdentifierStart (Char.ofNat code) = false ∧ Char.ofNat code ∉ blanks ∧
      Char.ofNat code ∉ marks ∧ Char.ofNat code ∉ ['-', '\x27', '"'] := by decide
  have fact := facts c.toNat (Nat.lt_succ_of_le high) low
  rwa [Char.ofNat_toNat] at fact

/-- Only zero begins with a zero. -/
theorem eq_zero_of_head?_toDigits {n : Nat} (zero : (Nat.toDigits 10 n).head? = some '0') : n = 0 := by
  induction n using Nat.strongRecOn with
  | ind n ih =>
    rw [Nat.toDigits_eq_if (by decide)] at zero
    split at zero
    · simpa using zero
    · -- The first digit is that of the number without its last one.
      have front : (Nat.toDigits 10 (n / 10)).head? = some '0' := by
        cases same : Nat.toDigits 10 (n / 10) with
        | nil => exact absurd same Nat.toDigits_ne_nil
        | cons => simpa [same] using zero
      have := ih (n / 10) (by omega) front
      omega

/-- The digits of a number are read up to its end. -/
theorem natural?_toDigits (n : Nat) {rest : List Char} (ends : Ends rest) :
    natural? (Nat.toDigits 10 n ++ rest) = some (n, rest) := by
  -- The digits are all that is taken, as none follows them.
  have digits : ∀ c ∈ Nat.toDigits 10 n, c.isDigit = true := fun c mem =>
    Nat.isDigit_of_mem_toDigits (by decide) (by decide) mem
  have stops : ∀ c ∈ rest.head?, c.isDigit = false := by
    intro c first
    -- A digit would be part of the word that does not go on.
    cases digit : c.isDigit with
    | false => rfl
    | true =>
      have part := (facts_of_isDigit digit).1
      simp [ends c first] at part
  have noLetter : rest.head?.any Text.isIdentifierPart = false := by
    rw [Option.any_eq_false]
    exact ends
  obtain ⟨taken, left⟩ := span_append digits stops
  rw [natural?, taken, left]
  split
  · next none => exact absurd none Nat.toDigits_ne_nil
  · next begins =>
    -- Zero has no second digit.
    obtain rfl : n = 0 := eq_zero_of_head?_toDigits (by rw [begins, List.head?_cons])
    cases begins
  · rw [noLetter, Nat.ofDigitChars_ten_toDigits]
    rfl

/-- A digit decides that a number is what is read. -/
theorem token?_of_isDigit {c : Char} (digit : c.isDigit = true) (cs : List Char) :
    token? (c :: cs) = (natural? (c :: cs)).map fun (n, after) => (.number n, after) := by
  obtain ⟨-, noWord, -, noMark, other⟩ := facts_of_isDigit digit
  simp only [List.mem_cons, List.not_mem_nil, or_false, not_or] at other
  obtain ⟨noSign, noQuote, noDouble⟩ := other
  have noText : string? (c :: cs) = none := by
    unfold string?
    split
    · next same => exact absurd (List.head_eq_of_cons_eq same) noQuote
    · next same => exact absurd (List.head_eq_of_cons_eq same) noDouble
    · rfl
  simp [token?, noWord, noMark, noSign, noText]

/-- An integer is one token. -/
theorem int (n : Int) : Spells (toString n).toList [.number n] := by
  intro rest ends
  cases n with
  | ofNat n =>
    have spelled : (toString (Int.ofNat n)).toList = Nat.toDigits 10 n := Nat.toList_repr
    have read := natural?_toDigits n ends
    rw [spelled]
    cases same : Nat.toDigits 10 n with
    | nil => exact absurd same Nat.toDigits_ne_nil
    | cons c cs =>
      have digit : c.isDigit = true :=
        Nat.isDigit_of_mem_toDigits (n := n) (b := 10) (by decide) (by decide) (by simp [same])
      have visible := (facts_of_isDigit digit).2.2.1
      rw [same, List.cons_append] at read
      have found := token?_of_isDigit digit (cs ++ rest)
      rw [read, Option.map_some] at found
      rw [List.cons_append, tokens?_of_token? found (by simpa using visible)]
      rfl
  | negSucc n =>
    have spelled : (toString (Int.negSucc n)).toList = '-' :: Nat.toDigits 10 (n + 1) := by
      rw [show toString (Int.negSucc n) = "-" ++ (n + 1).repr from rfl, String.toList_append,
        Nat.toList_repr]
      rfl
    have read := natural?_toDigits (n + 1) ends
    have found : token? ('-' :: (Nat.toDigits 10 (n + 1) ++ rest)) = some (.number (.negSucc n), rest) := by
      -- The sign is no mark, so it is read as one with the digits.
      have noWord : Text.isIdentifierStart '-' = false := by decide
      simp [token?, noWord, marks, read]
    rw [spelled, List.cons_append, tokens?_of_token? found (by simp [blanks])]
    rfl

/-- A string literal is a token. -/
theorem token?_of_string? {text cs rest : List Char} (read : string? text = some (cs, rest)) :
    token? text = some (.text (String.ofList cs), rest) := by
  -- A quote is no word and no mark, so the literal is what is tried next.
  unfold string? at read
  split at read
  · have noWord : Text.isIdentifierStart '\x27' = false := by decide
    simp [token?, noWord, marks, string?, read]
  · have noWord : Text.isIdentifierStart '"' = false := by decide
    simp [token?, noWord, marks, string?, read]
  · cases read

/-- A string literal is one token, which stands for the text that was put in quotes. -/
theorem text (quote : Char) (isQuote : quote = '\x27' ∨ quote = '"') (s : String) :
    Spells (quoteText (String.ofList [quote]) s).toList [.text s] := by
  intro rest _
  have read := token?_of_string? (string?_quoted isQuote s.toList rest)
  -- The literal begins with its quote.
  have visible : ∀ c ∈ (Text.quoted [quote] s.toList ++ rest).head?, c ∉ blanks := by
    rcases isQuote with rfl | rfl <;> simp [Text.quoted, blanks]
  rw [quoteText, String.toList_ofList, String.toList_ofList, tokens?_of_token? read visible,
    String.ofList_toList]
  rfl

end Spells

end TypedClient.TypeScript
