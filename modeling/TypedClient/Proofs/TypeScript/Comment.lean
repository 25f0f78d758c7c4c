import TypedClient.Proofs.Text.Blank
import TypedClient.Proofs.Text.Search
import TypedClient.TypeScript.Print

/-! Where a documentation comment is closed: at its end, and wherever a line of it gets past the escapes. -/

namespace TypedClient.TypeScript

/-- A text is empty, or a comment that is closed once, at its end before the final line feed. -/
def ClosesOnce (text : String) : Prop :=
  text = "" ∨ Text.occurrences ['*', '/'] text.toList = 1 ∧ ∃ before, text = before ++ "*/\n"

/-- A text has a star before two slashes that no further star follows. -/
def SlipsThrough (line : String) : Prop :=
  ∃ before after, line.toList = before ++ '*' :: '/' :: '/' :: after ∧ after.head? ≠ some '*'

/-- A text begins with marks that close a comment and are not followed by a star. -/
def beginsClosing (cs : List Char) : Bool :=
  match cs with
  | '*' :: '/' :: after => after.head? != some '*'
  | _ => false

/-- A text begins with a star before two slashes that no further star follows. -/
def beginsDoubled (cs : List Char) : Bool :=
  match cs with
  | '*' :: '/' :: '/' :: after => after.head? != some '*'
  | _ => false

/-- A text has no such place exactly if nothing in it slips through. -/
theorem places_beginsDoubled_eq_zero {line : String} :
    Text.places beginsDoubled line.toList = 0 ↔ ¬SlipsThrough line := by
  rw [Text.places_eq_zero]
  constructor
  · rintro none ⟨before, after, same, unstarred⟩
    have begins := none before _ same
    simp [beginsDoubled, unstarred] at begins
  · intro kept before rest same
    by_contra begins
    unfold beginsDoubled at begins
    split at begins
    · next after => exact kept ⟨before, after, same, by simpa using begins⟩
    · exact begins rfl

/-- Without a star and a slash at its start, a text begins with no marks that close a comment. -/
theorem begins_of_not {c : Char} {cs : List Char} (other : ¬('*' = c ∧ cs.head? = some '/')) :
    beginsClosing (c :: cs) = false ∧ beginsDoubled (c :: cs) = false := by
  unfold beginsClosing beginsDoubled
  constructor
  · split
    · next same => cases same; simp at other
    · rfl
  · split
    · next same => cases same; simp at other
    · rfl

/-- Behind a star, a slash closes if no star follows it. -/
theorem beginsClosing_star (c : Char) (cs : List Char) :
    beginsClosing ('*' :: c :: cs) = (c == '/' && cs.head? != some '*') := by
  by_cases slash : c = '/'
  · subst slash
    simp [beginsClosing]
  · simp [beginsClosing, slash]

/-- A slash behind marks that close leaves marks that close when the first slash is taken away. -/
theorem beginsDoubled_closing (cs : List Char) :
    beginsDoubled ('*' :: '/' :: cs) = beginsClosing ('*' :: cs) := by
  cases cs with
  | nil => rfl
  | cons c cs =>
    rw [beginsClosing_star]
    by_cases slash : c = '/' <;> simp [beginsDoubled, slash]

/-- Taking away slashes behind stars leaves a text beginning as it did. -/
theorem head?_closed (cs : List Char) :
    (Text.replaceAll ['*', '/'] ['*'] cs).head? = cs.head? := by
  cases cs using Text.pair_induction '*' '/' with
  | nil => rfl
  | pair cs _ => rw [Text.replaceAll_pair]; rfl
  | cons c cs other _ => rw [Text.replaceAll_cons _ other]; rfl

/-- Taking away slashes behind stars makes no difference to what a star before the text closes. -/
theorem beginsClosing_closed (cs : List Char) :
    beginsClosing ('*' :: Text.replaceAll ['*', '/'] ['*'] cs) = beginsClosing ('*' :: cs) := by
  cases cs using Text.pair_induction '*' '/' with
  | nil => rfl
  | pair cs _ => rw [Text.replaceAll_pair]; rfl
  | cons c cs other _ =>
    rw [Text.replaceAll_cons _ other, beginsClosing_star, beginsClosing_star, head?_closed]

/-- With the slashes behind stars taken away, those stars close that a second slash follows. -/
theorem places_closed (cs : List Char) :
    Text.places beginsClosing (Text.replaceAll ['*', '/'] ['*'] cs) = Text.places beginsDoubled cs := by
  induction cs using Text.pair_induction '*' '/' with
  | nil => rfl
  | pair cs ih =>
    -- The star closes with what follows the slash behind it, and the slash itself is no place to begin at.
    have slash : beginsDoubled ('/' :: cs) = false := (begins_of_not (by simp)).2
    rw [Text.replaceAll_pair, List.singleton_append, Text.places_cons, ih, beginsClosing_closed,
      Text.places_cons, Text.places_cons, beginsDoubled_closing, slash]
    simp
  | cons c cs other ih =>
    -- A star that no slash follows closes nothing, neither before nor after.
    have after : ¬('*' = c ∧ (Text.replaceAll ['*', '/'] ['*'] cs).head? = some '/') := by
      rwa [head?_closed]
    rw [Text.replaceAll_cons _ other, Text.places_cons, Text.places_cons, ih,
      (begins_of_not other).2, (begins_of_not after).1]

/-- With the slashes in front of stars taken away, a text begins with one if no star followed it. -/
theorem head?_opened (cs : List Char) :
    (Text.replaceAll ['/', '*'] ['*'] cs).head? = some '/' ↔ beginsClosing ('*' :: cs) = true := by
  cases cs using Text.pair_induction '/' '*' with
  | nil => simp [Text.replaceAll, Text.replaceFrom, beginsClosing]
  | pair cs _ => simp [Text.replaceAll_pair, beginsClosing_star]
  | cons c cs other _ =>
    rw [Text.replaceAll_cons _ other, beginsClosing_star]
    by_cases slash : c = '/'
    · subst slash
      simpa using other
    · simp [slash]

/-- Of the marks that close, those are undone whose slash opens. -/
theorem occurrences_opened (cs : List Char) :
    Text.occurrences ['*', '/'] (Text.replaceAll ['/', '*'] ['*'] cs) = Text.places beginsClosing cs := by
  induction cs using Text.pair_induction '/' '*' with
  | nil => rfl
  | pair cs ih =>
    -- The slash is taken away, and the star behind it closes as it did before.
    have slash : beginsClosing ('/' :: '*' :: cs) = false := rfl
    rw [Text.replaceAll_pair, List.singleton_append, Text.occurrences_cons, ih, Text.places_cons,
      Text.places_cons, slash]
    simp [head?_opened]
  | cons c cs other ih =>
    rw [Text.replaceAll_cons _ other, Text.occurrences_cons, ih, Text.places_cons]
    by_cases star : '*' = c
    · subst star
      simp [head?_opened]
    · have unmarked : beginsClosing (c :: cs) = false := (begins_of_not fun begins => star begins.1).1
      simp [star, unmarked]

/-- How lines end makes no difference to the marks in them. -/
theorem occurrences_lineEnds (cs : List Char) :
    Text.occurrences ['*', '/'] (Text.replaceAll ['\r', '\n'] ['\n'] cs)
      = Text.occurrences ['*', '/'] cs := by
  have head (cs : List Char) :
      (Text.replaceAll ['\r', '\n'] ['\n'] cs).head? = some '/' ↔ cs.head? = some '/' := by
    cases cs using Text.pair_induction '\r' '\n' with
    | nil => rfl
    | pair cs _ => simp [Text.replaceAll_pair]
    | cons c cs other _ => simp [Text.replaceAll_cons _ other]
  -- A return that is taken away is neither a star nor a slash.
  induction cs using Text.pair_induction '\r' '\n' with
  | nil => rfl
  | pair cs ih => simp [Text.replaceAll_pair, Text.occurrences_cons, ih]
  | cons c cs other ih => simp [Text.replaceAll_cons _ other, Text.occurrences_cons, ih, head]

/-- An escaped text closes a comment wherever something in the text slips through. -/
theorem occurrences_escapeComment (line : String) :
    Text.occurrences ['*', '/'] (escapeComment line).toList = Text.places beginsDoubled line.toList := by
  rw [escapeComment, String.toList_ofList, occurrences_lineEnds, occurrences_opened, places_closed]

/-- The lines between the first and the last one of a comment. -/
def bodyLines (lines : List String) : List String :=
  (lines.filter (· != "")).flatMap fun line =>
    (Text.splitOn '\n' (escapeComment line).toList).map String.ofList

/-- The lines of a comment close it as often as something slips through in what is said. -/
theorem sum_bodyLines (lines : List String) :
    ((bodyLines lines).map fun line => Text.occurrences ['*', '/'] line.toList).sum
      = ((lines.filter (· != "")).map fun line => Text.places beginsDoubled line.toList).sum := by
  -- The marks of an escaped text are those of its lines, as no line feed stands between a star and a slash.
  have each (line : String) :
      (((Text.splitOn '\n' (escapeComment line).toList).map String.ofList).map
        fun part => Text.occurrences ['*', '/'] part.toList).sum
        = Text.places beginsDoubled line.toList := by
    have joined := Text.occurrences_intercalate (a := '*') (b := '/') (c := '\n') (by decide) (by decide)
      (Text.splitOn '\n' (escapeComment line).toList)
    rw [Text.splitOn_eq, List.intercalate_splitOn, occurrences_escapeComment] at joined
    rw [Text.splitOn_eq, joined, List.map_map]
    simp [Function.comp_def]
  rw [bodyLines, List.map_flatMap, List.flatMap_def, List.sum_flatten, List.map_map]
  simp only [Function.comp_def, each]

/-- A line is indented by blanks alone. -/
theorem not_mem_indent (level : Nat) : '*' ∉ (indent level).toList := by
  simp [indent]

/-- The blanks around a line and the star before it make no difference to the marks in it. -/
theorem occurrences_commentLine (level : Nat) (text : String) :
    Text.occurrences ['*', '/'] (trimEndText (indent level ++ " * " ++ text)).toList
      = Text.occurrences ['*', '/'] text.toList := by
  obtain ⟨trail, whole, blank⟩ := Text.exists_trail (indent level ++ " * " ++ text).toList
  -- Neither a star nor a slash is cut off with the blanks at the end.
  have noStar : '*' ∉ trail := fun mem => absurd (blank _ mem) (by decide)
  have noSlash : trail.head? ≠ some '/' := fun first =>
    absurd (blank _ (List.mem_of_mem_head? first)) (by decide)
  have trimmed : Text.occurrences ['*', '/'] (trimEndText (indent level ++ " * " ++ text)).toList
      = Text.occurrences ['*', '/'] (indent level ++ " * " ++ text).toList := by
    have none := Text.occurrences_append_left (b := '/') noStar []
    rw [List.append_nil, Text.occurrences_nil] at none
    conv_rhs => rw [whole, Text.occurrences_append noSlash, none]
    simp [trimEndText]
  -- A blank stands between the star of the line and its text.
  have starred : Text.occurrences ['*', '/'] (" * ".toList ++ text.toList)
      = Text.occurrences ['*', '/'] text.toList := by
    simp [Text.occurrences_cons]
  rw [trimmed, String.toList_append, String.toList_append, List.append_assoc,
    Text.occurrences_append_left (not_mem_indent level), starred]

/-- Without anything to say, there is no comment. -/
theorem printComment_of_nil {lines : List String} (level : Nat) (none : bodyLines lines = []) :
    printComment lines level = "" :=
  if_pos (List.isEmpty_iff.mpr none)

/-- The text of a comment before the marks at its end. -/
def beforeClosing (lines : List String) (level : Nat) : String :=
  indent level ++ "/**\n"
    ++ joinLines ((bodyLines lines).map fun text => trimEndText (indent level ++ " * " ++ text))
    ++ "\n" ++ indent level ++ " "

/-- A comment with something to say is closed at its end. -/
theorem printComment_of_ne_nil {lines : List String} (level : Nat) (some : bodyLines lines ≠ []) :
    printComment lines level = beforeClosing lines level ++ "*/\n" := by
  have nonempty : (bodyLines lines).isEmpty = false := by simpa using some
  have printed : printComment lines level = if (bodyLines lines).isEmpty then "" else
      indent level ++ "/**\n"
        ++ joinLines ((bodyLines lines).map fun text => trimEndText (indent level ++ " * " ++ text))
        ++ "\n" ++ indent level ++ " */\n" := rfl
  rw [printed, nonempty, if_neg Bool.false_ne_true, beforeClosing, show " */\n" = " " ++ "*/\n" from rfl,
    ← String.append_assoc]

/-- Before its end, a comment is closed as often as something slips through in what is said. -/
theorem occurrences_beforeClosing (lines : List String) (level : Nat) (after : List Char) :
    Text.occurrences ['*', '/'] ((beforeClosing lines level).toList ++ after)
      = ((lines.filter (· != "")).map fun line => Text.places beginsDoubled line.toList).sum
        + Text.occurrences ['*', '/'] after := by
  let inner := (bodyLines lines).map fun text => trimEndText (indent level ++ " * " ++ text)
  -- The lines between the first and the last one do not run into each other.
  have between : Text.occurrences ['*', '/'] (joinLines inner).toList
      = ((lines.filter (· != "")).map fun line => Text.places beginsDoubled line.toList).sum := by
    rw [joinLines, String.toList_intercalate, show "\n".toList = ['\n'] from rfl,
      Text.occurrences_intercalate (by decide) (by decide), List.map_map, List.map_map,
      ← sum_bodyLines]
    simp only [Function.comp_def, occurrences_commentLine]
  have last : Text.occurrences ['*', '/'] ('\n' :: ((indent level).toList ++ ' ' :: after))
      = Text.occurrences ['*', '/'] after := by
    simp [Text.occurrences_cons, Text.occurrences_append_left (not_mem_indent level)]
  have first (ds : List Char) : Text.occurrences ['*', '/'] ("/**\n".toList ++ ds)
      = Text.occurrences ['*', '/'] ds := by
    simp [Text.occurrences_cons]
  have whole : (beforeClosing lines level).toList ++ after = (indent level).toList ++ ("/**\n".toList
      ++ ((joinLines inner).toList ++ '\n' :: ((indent level).toList ++ ' ' :: after))) := by
    simp [beforeClosing, inner, String.toList_append]
  rw [whole, Text.occurrences_append_left (not_mem_indent level), first,
    Text.occurrences_append (by simp), between, last]

/-- There is nothing to say in a comment exactly if its lines are empty. -/
theorem bodyLines_eq_nil {lines : List String} : bodyLines lines = [] ↔ ∀ line ∈ lines, line = "" := by
  -- Even an empty text has a line of its own.
  have parts (line : String) : Text.splitOn '\n' (escapeComment line).toList ≠ [] := by
    rw [Text.splitOn_eq, List.splitOn_eq_splitOnP]
    exact List.splitOnP_ne_nil _ _
  simp [bodyLines, List.flatMap_eq_nil_iff, parts]

/-- Nothing slips through in an empty text. -/
theorem not_slipsThrough_empty : ¬SlipsThrough "" := by
  rintro ⟨before, after, same, -⟩
  simp at same

/-- A printed comment is closed once, at its end, exactly if nothing in its lines slips through. -/
theorem closesOnce_iff (lines : List String) (level : Nat) :
    ClosesOnce (printComment lines level) ↔ ∀ line ∈ lines, ¬SlipsThrough line := by
  by_cases none : bodyLines lines = []
  · -- Without anything to say, the comment is empty.
    refine iff_of_true (.inl (printComment_of_nil level none)) fun line mem => ?_
    rw [bodyLines_eq_nil.mp none line mem]
    exact not_slipsThrough_empty
  have counted : Text.occurrences ['*', '/'] (printComment lines level).toList
      = ((lines.filter (· != "")).map fun line => Text.places beginsDoubled line.toList).sum + 1 := by
    rw [printComment_of_ne_nil level none, String.toList_append, occurrences_beforeClosing]
    rfl
  have ends : ∃ before, printComment lines level = before ++ "*/\n" :=
    ⟨_, printComment_of_ne_nil level none⟩
  have nonempty : printComment lines level ≠ "" := by
    obtain ⟨before, same⟩ := ends
    simp [same]
  -- Beside the marks at its end, there are those that slip through in one of the lines.
  have zero : ClosesOnce (printComment lines level) ↔
      ((lines.filter (· != "")).map fun line => Text.places beginsDoubled line.toList).sum = 0 := by
    simp [ClosesOnce, nonempty, counted, ends]
  rw [zero, List.sum_eq_zero_iff_forall_eq_nat, List.forall_mem_map]
  simp only [places_beginsDoubled_eq_zero, List.mem_filter, bne_iff_ne, ne_eq, and_imp]
  -- An empty line is left out of the comment, and nothing slips through in it.
  refine forall₂_congr fun line mem => ⟨fun kept => ?_, fun kept _ => kept⟩
  by_cases empty : line = ""
  · rw [empty]
    exact not_slipsThrough_empty
  · exact kept empty

/-- A star before two slashes closes the comment that it stands in. -/
theorem not_closesOnce_slashes : ¬ClosesOnce (printComment ["*//"] 0) := by
  -- The first slash is taken away, and the star closes with the second one.
  rintro (none | ⟨once, -⟩)
  · exact absurd none (by decide)
  · exact absurd once (by decide)

end TypedClient.TypeScript
