import TypedClient.Proofs.TypeScript.Comment

/-! Operators of unions and intersections that stand outside all brackets, literals and comments of a text. -/

namespace TypedClient.TypeScript

/-- What the end of a text belongs to. -/
inductive Place
  | code
  /-- Behind a slash, which may open a comment. -/
  | slash
  | literal (quote : Char)
  /-- Behind a backslash, which takes the next character along. -/
  | escape (quote : Char)
  | comment
  /-- Behind a star, which may close the comment. -/
  | star
  deriving DecidableEq, Repr

/-- What has been seen of a text: where it ends, how many brackets are open there, and whether an operator
stood outside of any. -/
structure Scan where
  place : Place
  depth : Nat
  found : Bool
  deriving DecidableEq, Repr

/-- The quotes around literals. -/
def quotes : List Char :=
  ['\x27', '"']

/-- The brackets that open; those of arguments are brackets too. -/
def openings : List Char :=
  ['(', '[', '\x7b', '<']

/-- The brackets that close. -/
def closings : List Char :=
  [')', ']', '\x7d', '>']

/-- The operators of unions and intersections. -/
def operators : List Char :=
  ['|', '&']

namespace Scan

/-- The next character, outside literals and comments. -/
def enter (s : Scan) (c : Char) : Scan :=
  if quotes.contains c then { s with place := .literal c }
  else if c == '/' then { s with place := .slash }
  else if openings.contains c then { s with place := .code, depth := s.depth + 1 }
  else if closings.contains c then { s with place := .code, depth := s.depth - 1 }
  else { s with place := .code, found := s.found || (s.depth == 0 && operators.contains c) }

/-- The next character. -/
def next (s : Scan) (c : Char) : Scan :=
  match s.place with
  | .code => s.enter c
  | .slash => if c == '*' then { s with place := .comment } else s.enter c
  | .literal quote =>
    if c == '\\' then { s with place := .escape quote }
    else if c == quote then { s with place := .code }
    else s
  | .escape quote => { s with place := .literal quote }
  | .comment => if c == '*' then { s with place := .star } else s
  | .star =>
    if c == '/' then { s with place := .code }
    else if c == '*' then s
    else { s with place := .comment }

/-- The characters of a text, one after the other. -/
def text (s : Scan) (cs : List Char) : Scan :=
  cs.foldl next s

/-- A text is seen as its two parts are. -/
theorem text_append (s : Scan) (cs ds : List Char) : s.text (cs ++ ds) = (s.text cs).text ds :=
  List.foldl_append

/-- A text is seen from its first character on. -/
theorem text_cons (s : Scan) (c : Char) (cs : List Char) : s.text (c :: cs) = (s.next c).text cs :=
  rfl

end Scan

/-- Whether an operator stands in a text outside all brackets, literals and comments. -/
def showsOperator (text : String) : Bool :=
  (Scan.text ⟨.code, 0, false⟩ text.toList).found

/-- A text leaves no bracket, literal or comment open, and shows an operator outside of them or shows none. -/
def Shows (shown : Bool) (cs : List Char) : Prop :=
  ∀ depth found, Scan.text ⟨.code, depth, found⟩ cs = ⟨.code, depth, found || (depth == 0 && shown)⟩

/-- A text leaves no bracket, literal or comment open. -/
def Closed (cs : List Char) : Prop :=
  ∃ shown, Shows shown cs

variable {shown other : Bool} {cs ds : List Char} {c q : Char}

/-- What a text shows is what is seen of it. -/
theorem Shows.showsOperator_eq {text : String} (shows : Shows shown text.toList) :
    showsOperator text = shown := by
  simp [showsOperator, shows 0 false]

/-- A text that shows something leaves nothing open. -/
theorem Shows.closed (shows : Shows shown cs) : Closed cs :=
  ⟨shown, shows⟩

/-- An empty text shows nothing. -/
theorem Shows.nil : Shows false [] := by
  intro depth found
  simp [Scan.text]

/-- Two texts show an operator if one of them does. -/
theorem Shows.append (first : Shows shown cs) (second : Shows other ds) :
    Shows (shown || other) (cs ++ ds) := by
  intro depth found
  -- The second text begins at the depth at which the first one ends, which is where that began.
  rw [Scan.text_append, first, second, Bool.or_assoc, Bool.and_or_distrib_left]

/-- Two texts leave nothing open if neither of them does. -/
theorem Closed.append (first : Closed cs) (second : Closed ds) : Closed (cs ++ ds) := by
  obtain ⟨_, first⟩ := first
  obtain ⟨_, second⟩ := second
  exact (first.append second).closed

/-- A character that is no quote, no slash and no bracket leaves nothing open, and may be an operator. -/
theorem Shows.single (plain : c ∉ quotes ++ '/' :: openings ++ closings) :
    Shows (operators.contains c) [c] := by
  intro depth found
  simp only [List.mem_append, List.mem_cons, not_or] at plain
  obtain ⟨⟨noQuote, noSlash, opens⟩, closes⟩ := plain
  -- Of the branches for a next character, only the last one is left.
  simp [Scan.text, Scan.next, Scan.enter, noQuote, noSlash, opens, closes]

/-- The characters that mean something where they stand. -/
def signs : List Char :=
  operators ++ (quotes ++ '/' :: openings ++ closings)

/-- What a test finds of each sign holds of all of them. -/
theorem forall_signs {P : Char → Prop} [DecidablePred P]
    (tested : signs.all (fun c => decide (P c)) = true) : ∀ c ∈ signs, P c := by
  simpa [List.all_eq_true] using tested

/-- No sign is among the characters of a text. -/
def Plain (cs : List Char) : Prop :=
  ∀ c ∈ cs, c ∉ signs

instance (cs : List Char) : Decidable (Plain cs) :=
  List.decidableBAll (fun c => c ∉ signs) cs

/-- A text without signs shows nothing. -/
theorem Plain.shows (plain : Plain cs) : Shows false cs := by
  induction cs with
  | nil => exact .nil
  | cons c cs ih =>
    obtain ⟨first, others⟩ := List.forall_mem_cons.mp plain
    rw [signs, List.mem_append, not_or] at first
    -- A character that is no operator shows nothing, so only the others could.
    have single := Shows.single first.2
    rw [List.contains_eq_mem, decide_eq_false first.1] at single
    exact single.append (ih others)

/-- Two texts have no sign if neither of them has one. -/
theorem Plain.append (first : Plain cs) (second : Plain ds) : Plain (cs ++ ds) :=
  List.forall_mem_append.mpr ⟨first, second⟩

/-- A text has no sign if its first character is none and none follows it. -/
theorem Plain.cons {c : Char} (noSign : c ∉ signs) (rest : Plain cs) : Plain (c :: cs) :=
  List.forall_mem_cons.mpr ⟨noSign, rest⟩

/-- A part of a text has no sign if the text has none. -/
theorem Plain.mono (plain : Plain cs) (part : ds ⊆ cs) : Plain ds :=
  fun c mem => plain c (part mem)

/-- The same character over and over has no sign if it is none. -/
theorem plain_replicate {c : Char} (noSign : c ∉ signs) (n : Nat) : Plain (List.replicate n c) := by
  intro d mem
  rwa [List.eq_of_mem_replicate mem]

/-- Texts with a separator between them have no sign if neither they nor the separator have one. -/
theorem plain_intercalate {separator : String} (between : Plain separator.toList) {parts : List String}
    (each : ∀ part ∈ parts, Plain part.toList) : Plain (separator.intercalate parts).toList := by
  induction parts with
  | nil => simp [Plain]
  | cons part rest ih =>
    obtain ⟨first, others⟩ := List.forall_mem_cons.mp each
    cases rest with
    | nil => simpa using first
    | cons next rest =>
      rw [String.intercalate_cons_cons, String.toList_append, String.toList_append]
      exact (first.append between).append (ih others)

/-- An operator between blanks is shown. -/
theorem Shows.operator (isOperator : c ∈ operators) : Shows true [' ', c, ' '] := by
  have blank : Plain [' '] := by decide
  have single : Shows (operators.contains c) [c] := by
    have facts : ∀ c ∈ operators, c ∉ quotes ++ '/' :: openings ++ closings := by
      simp [operators, quotes, openings, closings]
    exact Shows.single (facts c isOperator)
  rw [List.contains_eq_mem, decide_eq_true isOperator] at single
  exact (blank.shows.append single).append blank.shows

/-- What stands in brackets is not shown. -/
theorem Closed.enclosed {opening closing : Char} (opens : opening ∈ openings) (closes : closing ∈ closings)
    (inner : Closed cs) : Shows false (opening :: (cs ++ [closing])) := by
  intro depth found
  obtain ⟨shown, inner⟩ := inner
  have entered (found : Bool) : Scan.next ⟨.code, depth, found⟩ opening = ⟨.code, depth + 1, found⟩ := by
    simp only [openings, List.mem_cons, List.not_mem_nil, or_false] at opens
    rcases opens with rfl | rfl | rfl | rfl <;> rfl
  have left (found : Bool) : Scan.next ⟨.code, depth + 1, found⟩ closing = ⟨.code, depth, found⟩ := by
    simp only [closings, List.mem_cons, List.not_mem_nil, or_false] at closes
    rcases closes with rfl | rfl | rfl | rfl <;> rfl
  -- Inside, the depth is not zero.
  rw [Scan.text_cons, entered, Scan.text_append, inner]
  simp [Scan.text, left]

/-- Texts with a closed separator between them leave nothing open if none of them does. -/
theorem Closed.intercalate {separator : List Char} (between : Closed separator) {parts : List (List Char)}
    (each : ∀ part ∈ parts, Closed part) : Closed (separator.intercalate parts) := by
  induction parts with
  | nil => exact Shows.nil.closed
  | cons part rest ih =>
    obtain ⟨first, others⟩ := List.forall_mem_cons.mp each
    cases rest with
    | nil => simpa using first
    | cons next rest =>
      rw [List.intercalate_cons_cons]
      exact (first.append between).append (ih others)

/-- Several texts with an operator between them show it. -/
theorem Shows.intercalate {separator : List Char} (between : Shows true separator)
    {parts : List (List Char)} (several : 2 ≤ parts.length) (each : ∀ part ∈ parts, Closed part) :
    Shows true (separator.intercalate parts) := by
  match parts, several with
  | part :: next :: rest, _ =>
    -- The first separator is enough, whatever the texts show themselves.
    obtain ⟨⟨_, first⟩, others⟩ := List.forall_mem_cons.mp each
    obtain ⟨_, behind⟩ := Closed.intercalate between.closed others
    simpa [List.intercalate_cons_cons] using (first.append between).append behind

/-- Texts with a comma between them leave nothing open if none of them does. -/
theorem closed_commas {parts : List String} (each : ∀ part ∈ parts, Closed part.toList) :
    Closed (", ".intercalate parts).toList := by
  rw [String.toList_intercalate]
  exact Closed.intercalate (Plain.shows (by decide)).closed (List.forall_mem_map.mpr each)

/-- A call shows nothing if its arguments leave nothing open. -/
theorem shows_call {head arguments : String} (opens : head.toList.getLast? = some '(')
    (plain : Plain head.toList.dropLast) (inner : Closed arguments.toList) :
    Shows false (head ++ arguments ++ ")").toList := by
  have enclosed : Shows false ('(' :: (arguments.toList ++ [')'])) :=
    inner.enclosed (by decide) (by decide)
  -- The head ends in the bracket that the call opens.
  have whole : (head ++ arguments ++ ")").toList
      = head.toList.dropLast ++ '(' :: (arguments.toList ++ [')']) := by
    conv_lhs => rw [String.toList_append, String.toList_append, ← List.dropLast_append_getLast? _ opens]
    simp
  rw [whole]
  exact plain.shows.append enclosed

section Literals

/-- A text does not leave the literal that it stands in. -/
def Stays (q : Char) (cs : List Char) : Prop :=
  ∀ depth found, Scan.text ⟨.literal q, depth, found⟩ cs = ⟨.literal q, depth, found⟩

/-- Two texts stay in a literal if each of them does. -/
theorem Stays.append (first : Stays q cs) (second : Stays q ds) : Stays q (cs ++ ds) := by
  intro depth found
  rw [Scan.text_append, first, second]

/-- A text stays in a literal that has neither its quote nor a backslash. -/
theorem Stays.of_plain (plain : ∀ c ∈ cs, c ≠ '\\' ∧ c ≠ q) : Stays q cs := by
  intro depth found
  induction cs with
  | nil => rfl
  | cons c cs ih =>
    obtain ⟨⟨noEscape, noQuote⟩, others⟩ := List.forall_mem_cons.mp plain
    rw [Scan.text_cons]
    simpa [Scan.next, noEscape, noQuote] using ih others

/-- An escape stays in a literal, whatever character it begins with. -/
theorem Stays.escape (mark : Char) (rest : Stays q cs) : Stays q ('\\' :: mark :: cs) := by
  intro depth found
  exact rest depth found

/-- A text stays in a literal if each part of it does. -/
theorem Stays.flatMap {α : Type} {write : α → List Char} {items : List α}
    (each : ∀ a ∈ items, Stays q (write a)) : Stays q (items.flatMap write) := by
  induction items with
  | nil => exact fun _ _ => rfl
  | cons a rest ih =>
    obtain ⟨first, others⟩ := List.forall_mem_cons.mp each
    exact first.append (ih others)

/-- A literal shows nothing. -/
theorem Stays.shows (isQuote : q ∈ quotes) (inner : Stays q cs) : Shows false (q :: (cs ++ [q])) := by
  intro depth found
  have opened : Scan.next ⟨.code, depth, found⟩ q = ⟨.literal q, depth, found⟩ := by
    simp [Scan.next, Scan.enter, isQuote]
  have ended : Scan.next ⟨.literal q, depth, found⟩ q = ⟨.code, depth, found⟩ := by
    -- A quote ends the literal, as it is not taken for the start of an escape.
    have noEscape : q ≠ '\\' := by
      rintro rfl
      exact absurd isQuote (by decide)
    simp [Scan.next, noEscape]
  rw [Scan.text_cons, opened, Scan.text_append, inner]
  simp [Scan.text, ended]

/-- A character stays in a literal in the way that it is written there. -/
theorem stays_escaped (isQuote : q ∈ quotes) (c : Char) : Stays q (Text.escaped [q] c) := by
  -- Only line separators take more than one character behind the backslash, and these are digits.
  have digits : ∀ d ∈ ['0', '2', '8', '9'], d ≠ '\\' ∧ d ≠ q := by
    simp only [quotes, List.mem_cons, List.not_mem_nil, or_false] at isQuote
    rcases isQuote with rfl | rfl <;> simp
  rw [Text.escaped]
  split
  · next mark found =>
    obtain ⟨first, rest, rfl, plain⟩ :
        ∃ first rest, mark = first :: rest ∧ ∀ d ∈ rest, d ∈ ['0', '2', '8', '9'] := by
      simp only [Text.escapeMark?] at found
      grind
    exact (Stays.of_plain fun d mem => digits d (plain d mem)).escape first
  · next none =>
    have plain : c ≠ '\\' ∧ c ≠ q := by
      simp only [Text.escapeMark?] at none
      grind
    exact Stays.of_plain fun d mem => by rwa [List.mem_singleton.mp mem]

/-- A text between quotes shows nothing. -/
theorem shows_quoteText (isQuote : q ∈ quotes) (s : String) :
    Shows false (quoteText (String.ofList [q]) s).toList := by
  rw [quoteText, String.toList_ofList, String.toList_ofList, Text.quoted, List.append_assoc,
    List.singleton_append]
  exact (Stays.flatMap fun c _ => stays_escaped isQuote c).shows isQuote

end Literals

section Comments

/-- A comment goes on through a text that does not close it, not even with a star before the text. -/
theorem text_of_unclosed {depth : Nat} {found : Bool} (unclosed : Text.occurrences ['*', '/'] cs = 0) :
    Scan.text ⟨.comment, depth, found⟩ cs ∈ [⟨.comment, depth, found⟩, ⟨.star, depth, found⟩] ∧
      (cs.head? ≠ some '/' →
        Scan.text ⟨.star, depth, found⟩ cs ∈ [⟨.comment, depth, found⟩, ⟨.star, depth, found⟩]) := by
  induction cs with
  | nil => simp [Scan.text]
  | cons c cs ih =>
    rw [Text.occurrences_cons, Nat.add_eq_zero_iff] at unclosed
    obtain ⟨ofComment, ofStar⟩ := ih unclosed.1
    -- A star may close the comment with what follows it, and any other character is passed over.
    by_cases star : c = '*'
    · subst star
      have next : cs.head? ≠ some '/' := by simpa using unclosed.2
      exact ⟨ofStar next, fun _ => ofStar next⟩
    · refine ⟨by simpa [Scan.text_cons, Scan.next, star] using ofComment, fun first => ?_⟩
      have noSlash : c ≠ '/' := by simpa using first
      simpa [Scan.text_cons, Scan.next, star, noSlash] using ofComment

/-- A comment shows nothing if it is closed at its end only. -/
theorem shows_comment (unclosed : Text.occurrences ['*', '/'] cs = 0) :
    Shows false ('/' :: '*' :: (cs ++ ['*', '/'])) := by
  intro depth found
  have inside : Scan.text ⟨.comment, depth, found⟩ cs ∈ _ := (text_of_unclosed unclosed).1
  have opened : Scan.text ⟨.code, depth, found⟩ ('/' :: '*' :: (cs ++ ['*', '/']))
      = (Scan.text ⟨.comment, depth, found⟩ cs).text ['*', '/'] := by
    rw [← Scan.text_append]
    rfl
  rw [opened]
  -- The closing mark ends the comment, even if a star stands right before it.
  simp only [List.mem_cons, List.not_mem_nil, or_false] at inside
  rcases inside with same | same <;> rw [same] <;> simp [Scan.text, Scan.next]

/-- The blanks before a line show nothing. -/
theorem shows_indent (level : Nat) : Shows false (indent level).toList := by
  rw [indent, String.toList_ofList]
  exact (plain_replicate (by decide) _).shows

/-- A printed comment shows nothing, if no line of it slips through. -/
theorem shows_printComment {lines : List String} (kept : ∀ line ∈ lines, ¬SlipsThrough line)
    (level : Nat) : Shows false (printComment lines level).toList := by
  by_cases none : bodyLines lines = []
  · rw [printComment_of_nil level none]
    exact .nil
  -- Between its opening and its closing marks, the comment is closed nowhere.
  have sum : Text.occurrences ['*', '/'] (beforeClosing lines level).toList = 0 := by
    have counted := occurrences_beforeClosing lines level []
    rw [List.append_nil] at counted
    rw [counted, Text.occurrences_nil, Nat.add_zero, List.sum_eq_zero_iff_forall_eq_nat, List.forall_mem_map]
    exact fun line mem => places_beginsDoubled_eq_zero.mpr (kept line (List.mem_filter.mp mem).1)
  obtain ⟨inner, same⟩ : ∃ inner,
      (beforeClosing lines level).toList = (indent level).toList ++ '/' :: '*' :: inner :=
    ⟨_, by simp only [beforeClosing, String.toList_append, List.append_assoc]; rfl⟩
  have unclosed : Text.occurrences ['*', '/'] inner = 0 := by
    rw [same, Text.occurrences_append_left (not_mem_indent level)] at sum
    simp only [Text.occurrences_cons, Nat.add_eq_zero_iff] at sum
    exact sum.1.1
  have ended : Shows false ['\n'] := Plain.shows (by decide)
  have whole : (printComment lines level).toList
      = (indent level).toList ++ ('/' :: '*' :: (inner ++ ['*', '/']) ++ ['\n']) := by
    simp [printComment_of_ne_nil level none, String.toList_append, same]
  rw [whole]
  exact (shows_indent level).append ((shows_comment unclosed).append ended)

end Comments

end TypedClient.TypeScript
