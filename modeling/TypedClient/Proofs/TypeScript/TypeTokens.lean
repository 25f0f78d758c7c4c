import TypedClient.Proofs.Outcome
import TypedClient.Proofs.TypeScript.Token
import TypedClient.TypeScript.Print

/-! The tokens that the text of a type expression consists of, at whatever depth it is written. -/

namespace TypedClient

/-- A name that can be told from its key: the index signature, or one that begins with no bracket, ends with
no line feed and does not consist of digits. -/
def ReadableKey (name : Value) : Prop :=
  ∃ s, name = .text s ∧
    (s = "[key: string]" ∨
      (s.toList.head? ≠ some '[' ∧ ¬ (s ≠ "" ∧ s.toList.all Text.isDigit) ∧
        s.toList.getLast? ≠ some '\n'))

/--
A type expression without comments, made of named types, plain literals, lists, objects, and unions and
intersections of at least two types.
-/
inductive TypeExpr.Readable : TypeExpr → Prop
  /-- A named type has a legal name, and any arguments. -/
  | reference {name : String} {args : List TypeExpr}
      (legal : TypeScript.isIdentifierName name = true) (noTruth : name ∉ ["true", "false"])
      (each : ∀ a ∈ args, Readable a) : Readable (.reference name args)
  /-- A text is a literal. -/
  | text (s : String) : Readable (.literal (.text s))
  /-- An integer is a literal. -/
  | int (n : Int) : Readable (.literal (.int n))
  /-- A truth value is a literal. -/
  | bool (b : Bool) : Readable (.literal (.bool b))
  /-- Null is a literal. -/
  | null : Readable (.literal .null)
  /-- A list may be one of anything. -/
  | array {element : TypeExpr} (each : Readable element) : Readable (.array element)
  /-- A union has at least two alternatives. -/
  | union {types : List TypeExpr} (several : 2 ≤ types.length) (each : ∀ t ∈ types, Readable t) :
      Readable (.union types)
  /-- An intersection has at least two parts. -/
  | intersection {types : List TypeExpr} (several : 2 ≤ types.length)
      (each : ∀ t ∈ types, Readable t) : Readable (.intersection types)
  /-- An object has members with keys that can be read, and with nothing said about them. -/
  | object {members : List (Member TypeExpr)} (keys : ∀ m ∈ members, ReadableKey m.name)
      (silent : ∀ m ∈ members, ∀ line ∈ m.comment, line = "")
      (each : ∀ m ∈ members, Readable m.type) : Readable (.object members)

namespace TypeScript

/-- Lists of tokens with a mark between each two of them. -/
def separated (c : Char) : List (List Token) → List Token
  | [] => []
  | [ts] => ts
  | ts :: rest => ts ++ .mark c :: separated c rest

/-- Tokens in parentheses if the flag says so. -/
def wrapped (flag : Bool) (ts : List Token) : List Token :=
  if flag then .mark '(' :: ts ++ [.mark ')'] else ts

/-- The token of a literal. -/
def literalToken : Value → Token
  | .text s => .text s
  | .int n => .number n
  | .bool b => .word (if b then "true" else "false")
  | _ => .word "null"

/-- The tokens of a key. -/
def keyTokens : Value → List Token
  | .text s =>
    -- The index signature is the only key that is printed as it is with marks in it.
    if s == "[key: string]" then [.mark '[', .word "key", .mark ':', .word "string", .mark ']']
    else if Name.isPlain s.toList then [.word s]
    else [.text s]
  | _ => []

/-- The tokens of a member up to its colon. -/
def headTokens (name : Value) (isRequired isReadOnly : Bool) : List Token :=
  (if isReadOnly then [.word "readonly"] else []) ++ keyTokens name
    ++ (if isRequired then [] else [.mark '?']) ++ [.mark ':']

mutual

/-- The tokens of a type expression. -/
def typeTokens : TypeExpr → List Token
  | .reference name [] => [.word name]
  | .reference name args => .word name :: .mark '<' :: separated ',' (tokensOfEach args) ++ [.mark '>']
  | .literal value => [literalToken value]
  | .array element => wrapped element.isCompound (typeTokens element) ++ [.mark '[', .mark ']']
  | .union types => separated '|' (tokensOfEach types)
  | .intersection types => separated '&' (tokensOfParts types)
  | .object members => .mark '\x7b' :: (tokensOfMembers members).flatten ++ [.mark '\x7d']
  | .indexed _ _ | .raw _ | .foreign _ => []

/-- The tokens of each of several type expressions. -/
def tokensOfEach : List TypeExpr → List (List Token)
  | [] => []
  | type :: rest => typeTokens type :: tokensOfEach rest

/-- The tokens of each part of an intersection. -/
def tokensOfParts : List TypeExpr → List (List Token)
  | [] => []
  | type :: rest => wrapped type.isAlternative (typeTokens type) :: tokensOfParts rest

/-- The tokens of each member of an object type. -/
def tokensOfMembers : List (Member TypeExpr) → List (List Token)
  | [] => []
  | ⟨name, type, isRequired, isReadOnly, _⟩ :: rest =>
    (headTokens name isRequired isReadOnly ++ typeTokens type ++ [.mark ';']) :: tokensOfMembers rest

end

/-- Each of several type expressions has its own tokens. -/
theorem tokensOfEach_eq_map (types : List TypeExpr) : tokensOfEach types = types.map typeTokens := by
  induction types with
  | nil => rfl
  | cons type rest ih => rw [tokensOfEach, ih, List.map_cons]

/-- Each part of an intersection has its own tokens, in parentheses if it is a union. -/
theorem tokensOfParts_eq_map (types : List TypeExpr) :
    tokensOfParts types = types.map fun t => wrapped t.isAlternative (typeTokens t) := by
  induction types with
  | nil => rfl
  | cons type rest ih => rw [tokensOfParts, ih, List.map_cons]

/-- Each member has its own tokens. -/
theorem tokensOfMembers_eq_map (members : List (Member TypeExpr)) :
    tokensOfMembers members = members.map fun m =>
      headTokens m.name m.isRequired m.isReadOnly ++ typeTokens m.type ++ [.mark ';'] := by
  induction members with
  | nil => rfl
  | cons member rest ih => rw [tokensOfMembers, ih, List.map_cons]

namespace Spells

variable {cs ds : List Char} {ts us : List Token}

/-- Two texts spell the tokens of both if the second begins with a mark or a blank. -/
theorem then_mark {c : Char} (first : Spells cs ts) (second : Spells (c :: ds) us)
    (listed : c ∈ marks ++ blanks) : Spells (cs ++ c :: ds) (ts ++ us) := by
  -- No mark and no blank goes on with a word, and there are few of them.
  have facts : ((marks ++ blanks).all fun c => !Text.isIdentifierPart c) = true := by decide
  refine first.append second ?_
  intro d same
  cases same
  simpa using List.all_eq_true.mp facts c listed

/-- A text in parentheses spells its tokens in parentheses. -/
theorem parenthesized {text : String} (flag : Bool) (inner : Spells text.toList ts) :
    Spells (parenthesized flag text).toList (wrapped flag ts) := by
  cases flag with
  | false => exact inner
  | true =>
    -- The closing parenthesis ends the text, and the opening one stands before any token of it.
    have closed : Spells (text.toList ++ [')']) (ts ++ [.mark ')']) :=
      inner.then_mark (nil.mark (by decide)) (by decide)
    simpa [TypedClient.parenthesized, wrapped, String.toList_append] using
      closed.mark (c := '(') (by decide)

/-- The blanks before a line add no token. -/
theorem indented (level : Nat) (line : Spells cs ts) : Spells ((indent level).toList ++ cs) ts := by
  rw [indent, String.toList_ofList]
  -- A line is indented by one blank after the other.
  induction 4 * level with
  | zero => exact line
  | succ n ih => exact ih.blank (by decide)

/-- Texts with a separator between them spell their tokens with a mark between them. -/
theorem intercalate {separator : String} {c : Char}
    (spelled : ∀ {cs ts}, Spells cs ts → Spells (separator.toList ++ cs) (.mark c :: ts))
    (ends : ∀ cs, Ends (separator.toList ++ cs)) {texts : List String} {lists : List (List Token)}
    (each : List.Forall₂ (fun text ts => Spells text.toList ts) texts lists) :
    Spells (separator.intercalate texts).toList (separated c lists) := by
  induction each with
  | nil => exact nil
  | @cons text ts others rest first each ih =>
    cases each with
    | nil => simpa [separated] using first
    | @cons next us others rest second each =>
      -- A text ends where the separator begins, and the separator belongs to what comes next.
      have both := first.append (spelled ih) (ends _)
      simpa [String.intercalate_cons_cons, String.toList_append, separated] using both

/-- A comma and a blank between texts. -/
theorem commas {texts : List String} {lists : List (List Token)}
    (each : List.Forall₂ (fun text ts => Spells text.toList ts) texts lists) :
    Spells (", ".intercalate texts).toList (separated ',' lists) := by
  -- Only the comma itself is a token.
  refine intercalate (fun rest => ?_) (fun cs => ?_) each
  · exact (rest.blank (c := ' ') (by decide)).mark (c := ',') (by decide)
  · rintro c ⟨⟩
    decide

/-- A mark between blanks, between texts. -/
theorem operators {c : Char} (listed : c ∈ marks) {texts : List String} {lists : List (List Token)}
    (each : List.Forall₂ (fun text ts => Spells text.toList ts) texts lists) :
    Spells ((String.ofList [' ', c, ' ']).intercalate texts).toList (separated c lists) := by
  -- The blanks around the mark are none.
  refine intercalate (fun rest => ?_) (fun cs => ?_) each
  · rw [String.toList_ofList]
    exact ((rest.blank (c := ' ') (by decide)).mark listed).blank (c := ' ') (by decide)
  · rw [String.toList_ofList]
    rintro c ⟨⟩
    decide

/-- Lines that follow one another spell what each of them does. -/
theorem lines {texts : List String} {lists : List (List Token)}
    (each : List.Forall₂ (fun text ts => Spells text.toList ts) texts lists) :
    Spells ('\n' :: (joinLines texts).toList) lists.flatten := by
  induction each with
  | nil => exact nil.blank (by decide)
  | @cons text ts others rest first each ih =>
    cases each with
    | nil => simpa [joinLines] using first.blank (c := '\n') (by decide)
    | @cons next us others rest second each =>
      -- The next line begins with the line feed that ends this one.
      have both := first.then_mark ih (by decide)
      simpa [joinLines, String.toList_append] using both.blank (c := '\n') (by decide)

/-- The word for a read-only member in front of its key. -/
theorem modified (isReadOnly : Bool) (rest : Spells cs ts) :
    Spells ((if isReadOnly then "readonly " else "").toList ++ cs)
      ((if isReadOnly then [.word "readonly"] else []) ++ ts) := by
  -- The word is parted from the key by a blank.
  cases isReadOnly with
  | false => exact rest
  | true =>
    have word : Spells "readonly".toList [.word "readonly"] := Spells.word (by decide)
    exact word.then_mark (rest.blank (by decide)) (by decide)

/-- The question mark of a member that may be left out, between its key and the colon. -/
theorem keyed (isRequired : Bool) (key : Spells cs ts) (rest : Spells (':' :: ds) us) :
    Spells (cs ++ ((if isRequired then "" else "?").toList ++ ':' :: ds))
      (ts ++ ((if isRequired then [] else [.mark '?']) ++ us)) := by
  -- The key ends at the question mark or at the colon.
  cases isRequired with
  | true => exact key.then_mark rest (by decide)
  | false => exact key.then_mark (rest.mark (by decide)) (by decide)

end Spells

/-- The printed text of a type expression spells its tokens at every depth. -/
def PrintsTokens (type : TypeExpr) : Prop :=
  ∀ level, ∃ text, printType type level = .ok text ∧ Spells text.toList (typeTokens type)

/-- Several type expressions are printed one by one. -/
theorem printTypes_eq_mapM (types : List TypeExpr) (level : Nat) :
    printTypes types level = types.mapM fun t => printType t level := by
  induction types with
  | nil => rfl
  | cons type rest ih => rw [printTypes, List.mapM_cons, ih]

/-- The parts of an intersection are printed one by one, and then put in parentheses. -/
theorem printParts_eq_mapM (types : List TypeExpr) (level : Nat) :
    printParts types level
      = types.mapM fun t => parenthesized t.isAlternative <$> printType t level := by
  induction types with
  | nil => rfl
  | cons type rest ih => rw [printParts, List.mapM_cons, ih, map_eq_pure_bind, bind_assoc]; rfl

/-- The members of an object type are printed one by one, each on a line. -/
theorem printMemberLines_eq_mapM (members : List (Member TypeExpr)) (level : Nat) :
    printMemberLines members level = members.mapM fun m => do
      let key ← printKey m.name
      let text ← printType m.type level
      return memberLine key m.isRequired m.isReadOnly m.comment level text := by
  induction members with
  | nil => rfl
  | cons member rest ih => rw [printMemberLines, List.mapM_cons, ih]; simp

/-- Texts that are printed one by one spell their tokens if each of them does. -/
theorem mapM_spells {α : Type} {print : α → Outcome String} {tokens : α → List Token} {items : List α}
    (each : ∀ a ∈ items, ∃ text, print a = .ok text ∧ Spells text.toList (tokens a)) :
    ∃ texts, items.mapM print = .ok texts ∧
      List.Forall₂ (fun text ts => Spells text.toList ts) texts (items.map tokens) := by
  induction items with
  | nil => exact ⟨[], rfl, .nil⟩
  | cons item rest ih =>
    obtain ⟨first, others⟩ := List.forall_mem_cons.mp each
    obtain ⟨text, printed, spelled⟩ := first
    obtain ⟨texts, restPrinted, restSpelled⟩ := ih others
    refine ⟨text :: texts, ?_, .cons spelled restSpelled⟩
    simp [List.mapM_cons, printed, restPrinted]

/-- The texts of several type expressions spell their tokens. -/
theorem printTypes_spells {types : List TypeExpr} (each : ∀ t ∈ types, PrintsTokens t) (level : Nat) :
    ∃ texts, printTypes types level = .ok texts ∧
      List.Forall₂ (fun text ts => Spells text.toList ts) texts (tokensOfEach types) := by
  rw [printTypes_eq_mapM, tokensOfEach_eq_map]
  exact mapM_spells fun type mem => each type mem level

/-- The texts of the parts of an intersection spell their tokens. -/
theorem printParts_spells {types : List TypeExpr} (each : ∀ t ∈ types, PrintsTokens t) (level : Nat) :
    ∃ texts, printParts types level = .ok texts ∧
      List.Forall₂ (fun text ts => Spells text.toList ts) texts (tokensOfParts types) := by
  rw [printParts_eq_mapM, tokensOfParts_eq_map]
  refine mapM_spells fun type mem => ?_
  obtain ⟨text, printed, spelled⟩ := each type mem level
  -- The part is printed like any type, and then put in parentheses.
  exact ⟨_, by rw [printed]; rfl, spelled.parenthesized type.isAlternative⟩

/-- The characters of plain names are ASCII ones. -/
theorem lt_of_isPlainPart {c : Char} (plain : Name.isPlainPart c = true) : c.toNat < 128 := by
  -- Each of the ranges ends below that code.
  simp only [Name.isPlainPart, Name.isPlainStart, Text.isAsciiUpper, Text.isAsciiLower,
    Bool.or_eq_true, Bool.and_eq_true, decide_eq_true_eq, beq_iff_eq, Char.le_def,
    UInt32.le_iff_toNat_le] at plain
  rcases plain with (((⟨-, low⟩ | ⟨-, low⟩) | rfl) | rfl) | ⟨-, low⟩
  · exact Nat.lt_of_le_of_lt low (by decide)
  · exact Nat.lt_of_le_of_lt low (by decide)
  · decide
  · decide
  · exact Nat.lt_of_le_of_lt low (by decide)

/-- The characters of plain names are those of identifiers. -/
theorem isIdentifierPart_of_isPlainPart {c : Char} (plain : Name.isPlainPart c = true) :
    Text.isIdentifierPart c = true ∧ (Name.isPlainStart c = true → Text.isIdentifierStart c = true) := by
  -- There are only so many ASCII characters, so the ranges need not be compared.
  have facts : ∀ code < 128, Name.isPlainPart (Char.ofNat code) = true →
      Text.isIdentifierPart (Char.ofNat code) = true ∧
        (Name.isPlainStart (Char.ofNat code) = true → Text.isIdentifierStart (Char.ofNat code) = true) := by
    decide +kernel
  have fact := facts c.toNat (lt_of_isPlainPart plain)
  rw [Char.ofNat_toNat] at fact
  exact fact plain

/-- A plain name is a legal one. -/
theorem isIdentifierName_of_isPlain {s : String} (plain : Name.isPlain s.toList = true)
    (ended : s.toList.getLast? ≠ some '\n') : isIdentifierName s = true := by
  -- A line feed at the end is the one thing that a plain name may have and a legal one may not.
  have seen : (s.toList.getLast? == some '\n') = false := by simpa using ended
  simp only [Name.isPlain, seen] at plain
  unfold isIdentifierName
  split at plain
  · cases plain
  · next c rest same =>
    obtain ⟨start, parts⟩ := Bool.and_eq_true_iff.mp plain
    have whole : s.toList = c :: rest := by simpa using same
    have first : Name.isPlainPart c = true := by simp [Name.isPlainPart, start]
    simp only [whole, Bool.and_eq_true, List.all_eq_true]
    refine ⟨(isIdentifierPart_of_isPlainPart first).2 start, fun d mem => ?_⟩
    exact (isIdentifierPart_of_isPlainPart (List.all_eq_true.mp parts d mem)).1

/-- The token that a text is as a key: a word if it is a plain name, else a text in quotes. -/
def keyToken (s : String) : Token :=
  if Name.isPlain s.toList then .word s else .text s

/-- A key spells its token, unless it is a number or a line feed at its end goes unseen. -/
theorem escapeKey_spells {s : String} (noNumber : ¬(s ≠ "" ∧ s.toList.all Text.isDigit))
    (ended : s.toList.getLast? ≠ some '\n') : Spells (escapeKey s).toList [keyToken s] := by
  have digits : (!s.toList.isEmpty && s.toList.all Text.isDigit) = false := by
    rw [Bool.eq_false_iff]
    intro number
    obtain ⟨nonempty, all⟩ := Bool.and_eq_true_iff.mp number
    exact noNumber ⟨by rintro rfl; simp at nonempty, all⟩
  -- A plain name is a word, and any other key is put in quotes.
  by_cases plain : Name.isPlain s.toList
  · have legal := isIdentifierName_of_isPlain plain ended
    simpa [escapeKey, Name.isBareKey, keyToken, plain] using Spells.word legal
  · have quoted := Spells.text '\x27' (.inl rfl) s
    simpa [escapeKey, Name.isBareKey, keyToken, plain, digits] using quoted

/-- A key that can be read is printed as its tokens. -/
theorem printKey_spells {name : Value} (readable : ReadableKey name) :
    ∃ key, printKey name = .ok key ∧ Spells key.toList (keyTokens name) := by
  obtain ⟨s, rfl, rfl | ⟨noBracket, noNumber, ended⟩⟩ := readable
  · -- The index signature is printed as it is, and its tokens are put in front of each other from its end.
    refine ⟨"[key: string]", rfl, ?_⟩
    have last : Spells ("string".toList ++ [']']) ([.word "string"] ++ [.mark ']']) :=
      (Spells.word (by decide)).then_mark (Spells.nil.mark (by decide)) (by decide)
    have typed := (last.blank (c := ' ') (by decide)).mark (c := ':') (by decide)
    have first : Spells ("key".toList ++ ':' :: ' ' :: ("string".toList ++ [']'])) _ :=
      (Spells.word (by decide)).then_mark typed (by decide)
    exact first.mark (c := '[') (by decide)
  · -- Any other key is printed bare if it is plain, and else in quotes.
    have noIndex : s ≠ "[key: string]" := by
      rintro rfl
      exact noBracket (by decide)
    have single : keyTokens (.text s) = [keyToken s] := by
      by_cases plain : Name.isPlain s.toList <;> simp [keyTokens, keyToken, noIndex, plain]
    refine ⟨escapeKey s, ?_, single ▸ escapeKey_spells noNumber ended⟩
    simp [printKey, Value.asText, noBracket]

/-- A line of a member spells its tokens. -/
theorem memberLine_spells {name : Value} {key type : String} {ts : List Token} {comment : List String}
    (isRequired isReadOnly : Bool) (silent : ∀ line ∈ comment, line = "")
    (keySpelled : Spells key.toList (keyTokens name)) (typeSpelled : Spells type.toList ts) (level : Nat) :
    Spells (memberLine key isRequired isReadOnly comment level type).toList
      (headTokens name isRequired isReadOnly ++ ts ++ [.mark ';']) := by
  have none : comment.filter (· != "") = [] := by simpa using silent
  -- The line is put together from its end: the type, what stands before it, and the key with its modifiers.
  have ended := typeSpelled.then_mark (Spells.nil.mark (c := ';') (by decide)) (by decide)
  have typed := (ended.blank (c := ' ') (by decide)).mark (c := ':') (by decide)
  have line := ((keySpelled.keyed isRequired typed).modified isReadOnly).indented level
  simpa [memberLine, printComment, none, headTokens, String.toList_append] using line

/-- The lines of members spell the tokens of the members. -/
theorem printMemberLines_spells {members : List (Member TypeExpr)}
    (keys : ∀ m ∈ members, ReadableKey m.name) (silent : ∀ m ∈ members, ∀ line ∈ m.comment, line = "")
    (each : ∀ m ∈ members, PrintsTokens m.type) (level : Nat) :
    ∃ lines, printMemberLines members level = .ok lines ∧
      List.Forall₂ (fun line ts => Spells line.toList ts) lines (tokensOfMembers members) := by
  rw [printMemberLines_eq_mapM, tokensOfMembers_eq_map]
  refine mapM_spells fun member mem => ?_
  obtain ⟨key, keyPrinted, keySpelled⟩ := printKey_spells (keys member mem)
  obtain ⟨text, printed, spelled⟩ := each member mem level
  have line := memberLine_spells member.isRequired member.isReadOnly (silent member mem)
    keySpelled spelled level
  exact ⟨_, by simp [keyPrinted, printed], line⟩

/-- A literal spells its token. -/
theorem enumLiteral_spells (s : String) : Spells (enumLiteral true (.text s)).toList [.text s] := by
  -- The quotes depend on the text, and either of them are read back.
  unfold enumLiteral
  simp only [Bool.true_and]
  split
  · exact Spells.text '"' (.inr rfl) s
  · exact Spells.text '\x27' (.inl rfl) s

/-- The printed text of a type expression that can be read spells its tokens. -/
theorem printType_spells {type : TypeExpr} (readable : type.Readable) : PrintsTokens type := by
  -- The text of each construct is put together of those of its parts as its tokens are of theirs.
  induction readable with
  | @reference name args legal _ _ ih =>
    intro level
    cases args with
    | nil => exact ⟨name, rfl, Spells.word legal⟩
    | cons first rest =>
      obtain ⟨texts, printed, spelled⟩ := printTypes_spells ih level
      refine ⟨name ++ "<" ++ ", ".intercalate texts ++ ">", ?_, ?_⟩
      · simp [printType, printed]
      · have closed := (Spells.commas spelled).then_mark (Spells.nil.mark (c := '>') (by decide)) (by decide)
        have opened := (Spells.word legal).then_mark (closed.mark (c := '<') (by decide)) (by decide)
        simpa [String.toList_append, typeTokens] using opened
  | text s => exact fun _ => ⟨_, rfl, enumLiteral_spells s⟩
  | int n => exact fun _ => ⟨_, rfl, Spells.int n⟩
  | bool b =>
    intro level
    cases b with
    | false => exact ⟨"false", rfl, Spells.word (by decide)⟩
    | true => exact ⟨"true", rfl, Spells.word (by decide)⟩
  | null => exact fun _ => ⟨"null", rfl, Spells.word (by decide)⟩
  | @array element _ ih =>
    intro level
    obtain ⟨text, printed, spelled⟩ := ih level
    refine ⟨parenthesized element.isCompound text ++ "[]", by simp [printType, printed], ?_⟩
    have brackets := (Spells.nil.mark (c := ']') (by decide)).mark (c := '[') (by decide)
    simpa [String.toList_append, typeTokens] using
      (spelled.parenthesized element.isCompound).then_mark brackets (by decide)
  | @union types _ _ ih =>
    intro level
    obtain ⟨texts, printed, spelled⟩ := printTypes_spells ih level
    exact ⟨" | ".intercalate texts, by simp [printType, printed], Spells.operators (c := '|') (by decide) spelled⟩
  | @intersection types _ _ ih =>
    intro level
    obtain ⟨texts, printed, spelled⟩ := printParts_spells ih level
    exact ⟨" & ".intercalate texts, by simp [printType, printed], Spells.operators (c := '&') (by decide) spelled⟩
  | @object members keys silent _ ih =>
    intro level
    cases members with
    | nil =>
      refine ⟨braced "", rfl, ?_⟩
      exact (Spells.nil.mark (c := '\x7d') (by decide)).mark (c := '\x7b') (by decide)
    | cons member rest =>
      obtain ⟨lines, printed, spelled⟩ := printMemberLines_spells keys silent ih (level + 1)
      refine ⟨braced ("\n" ++ joinLines lines ++ "\n" ++ indent level), by simp [printType, printed], ?_⟩
      have closed := ((Spells.nil.mark (c := '\x7d') (by decide)).indented level).blank (c := '\n') (by decide)
      have opened := ((Spells.lines spelled).then_mark closed (by decide)).mark (c := '\x7b') (by decide)
      simpa [braced, String.toList_append, typeTokens] using opened

end TypeScript

end TypedClient
