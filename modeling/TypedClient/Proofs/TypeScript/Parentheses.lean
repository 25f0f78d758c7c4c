import TypedClient.Proofs.TypeScript.Literal
import TypedClient.Proofs.TypeScript.TypeTokens

/-! Which types show an operator where they are printed. -/

namespace TypedClient

/-- A name leaves nothing open as a key, even if it begins with a bracket and is written as it is. -/
def TidyKey (name : Value) : Prop :=
  ∀ s, name = .text s → s.toList.head? = some '[' → TypeScript.Closed s.toList

/-- A type expression that leaves nothing open where it is printed: no name, no key and no comment does, and
unions and intersections are of at least two types. -/
inductive TypeExpr.Tidy : TypeExpr → Prop
  | reference {name : String} {args : List TypeExpr} (closed : TypeScript.Closed name.toList)
      (each : ∀ a ∈ args, Tidy a) : Tidy (.reference name args)
  | literal (value : Value) : Tidy (.literal value)
  | array {element : TypeExpr} (each : Tidy element) : Tidy (.array element)
  | union {types : List TypeExpr} (several : 2 ≤ types.length) (each : ∀ t ∈ types, Tidy t) :
      Tidy (.union types)
  | intersection {types : List TypeExpr} (several : 2 ≤ types.length) (each : ∀ t ∈ types, Tidy t) :
      Tidy (.intersection types)
  | object {members : List (Member TypeExpr)} (keys : ∀ m ∈ members, TidyKey m.name)
      (kept : ∀ m ∈ members, ∀ line ∈ m.comment, ¬TypeScript.SlipsThrough line)
      (each : ∀ m ∈ members, Tidy m.type) : Tidy (.object members)

/-- Whether a type is, behind any number of lists, a name that shows an operator itself. -/
def TypeExpr.hidesUnion : TypeExpr → Bool
  | .reference name _ => TypeScript.showsOperator name
  | .array element => element.hidesUnion
  | _ => false

namespace TypeScript

/-- A closed text shows what is seen of it. -/
theorem Closed.shows {text : String} (closed : Closed text.toList) :
    Shows (showsOperator text) text.toList := by
  obtain ⟨shown, shows⟩ := closed
  rwa [shows.showsOperator_eq]

/-- A text in parentheses shows nothing, and any other one what it shows itself. -/
theorem Shows.parenthesized {shown : Bool} {text : String} (shows : Shows shown text.toList) (flag : Bool) :
    Shows (!flag && shown) (parenthesized flag text).toList := by
  cases flag with
  | false => simpa [TypedClient.parenthesized] using shows
  | true =>
    have enclosed : Shows false ('(' :: (text.toList ++ [')'])) := shows.closed.enclosed (by decide) (by decide)
    simpa [TypedClient.parenthesized, String.toList_append] using enclosed

/-- What can stand as a key without quotes has no signs. -/
theorem plain_of_isBareKey {cs : List Char} (bare : Name.isBareKey cs = true) : Plain cs := by
  have facts : ∀ c ∈ signs, c ≠ '\n' ∧ Name.isPlainPart c = false ∧ Text.isDigit c = false :=
    forall_signs (by decide)
  intro c mem sign
  obtain ⟨noLineFeed, noPart, noDigit⟩ := facts c sign
  rw [Name.isBareKey, Bool.or_eq_true, Bool.and_eq_true, List.all_eq_true] at bare
  rcases bare with plain | ⟨-, digits⟩
  · -- Only a line feed at the very end is not looked at.
    have inside : c ∈ if cs.getLast? == some '\n' then cs.dropLast else cs := by
      split
      · next ended =>
        rw [← List.dropLast_append_getLast? _ (eq_of_beq ended), List.mem_append] at mem
        exact mem.resolve_right (by simpa using noLineFeed)
      · exact mem
    rw [Name.isPlain] at plain
    split at plain
    · cases plain
    · next first rest seen =>
      rw [seen] at inside
      obtain ⟨start, parts⟩ := Bool.and_eq_true_iff.mp plain
      have each : ∀ d ∈ first :: rest, Name.isPlainPart d = true :=
        List.forall_mem_cons.mpr ⟨by simp [Name.isPlainPart, start], List.all_eq_true.mp parts⟩
      exact Bool.false_ne_true (noPart.symm.trans (each c inside))
  · exact Bool.false_ne_true (noDigit.symm.trans (digits c mem))

/-- A key is written without signs or in quotes. -/
theorem shows_escapeKey (s : String) : Shows false (escapeKey s).toList := by
  rw [escapeKey]
  split
  · next bare => exact (plain_of_isBareKey bare).shows
  · exact shows_quoteText (q := '\x27') (by decide) s

/-- A key leaves nothing open where it is printed. -/
theorem closed_printKey {name : Value} {key : String} (tidy : TidyKey name)
    (printed : printKey name = .ok key) : Closed key.toList := by
  obtain ⟨s, written, same⟩ := Outcome.bind_eq_ok.mp printed
  have same := Outcome.pure_eq_ok.mp same
  have named : name = .text s := by
    unfold Value.asText at written
    split at written <;> cases written
    rfl
  rw [← same]
  -- A key that begins with a bracket is written as it is, and every other one is escaped.
  split
  · next bracket => exact tidy s named (eq_of_beq bracket)
  · exact (shows_escapeKey s).closed

/-- The line of a member leaves nothing open. -/
theorem closed_memberLine {key type : String} {comment : List String} (isRequired isReadOnly : Bool)
    (keyClosed : Closed key.toList) (kept : ∀ line ∈ comment, ¬SlipsThrough line)
    (typeClosed : Closed type.toList) (level : Nat) :
    Closed (memberLine key isRequired isReadOnly comment level type).toList := by
  have modifier : Plain (if isReadOnly then "readonly " else "").toList := by
    split <;> decide
  have mark : Plain (if isRequired then "" else "?").toList := by
    split <;> decide
  have colon : Plain ": ".toList := by decide
  have semicolon : Plain ";".toList := by decide
  simp only [memberLine, String.toList_append]
  exact (((((((shows_printComment kept level).append (shows_indent level)).append
    modifier.shows).closed.append keyClosed).append mark.shows.closed).append colon.shows.closed).append
    typeClosed).append semicolon.shows.closed

/-- Several texts that are printed one by one show the operator between them. -/
theorem shows_operators {α : Type} (separator : String) {print : α → Outcome String} {items : List α}
    {texts : List String} (between : Shows true separator.toList) (several : 2 ≤ items.length)
    (done : items.mapM print = .ok texts)
    (each : ∀ a ∈ items, ∀ text, print a = .ok text → Closed text.toList) :
    Shows true (separator.intercalate texts).toList := by
  have length : texts.length = items.length := (Outcome.mapM_eq_ok.mp done).length_eq.symm
  rw [String.toList_intercalate]
  refine between.intercalate (by simpa [length] using several) (List.forall_mem_map.mpr fun text mem => ?_)
  obtain ⟨a, inside, made⟩ := Outcome.exists_item done mem
  exact each a inside text made

/-- Texts between braces show nothing, each on a line. -/
theorem shows_lines {lines : List String} (each : ∀ line ∈ lines, Closed line.toList) (level : Nat) :
    Shows false (braced ("\n" ++ joinLines lines ++ "\n" ++ indent level)).toList := by
  have lineFeed : Plain "\n".toList := by decide
  -- Closed lines are closed when they are joined, and the braces hide what they show.
  have body : Closed (joinLines lines).toList := by
    rw [joinLines, String.toList_intercalate]
    exact Closed.intercalate lineFeed.shows.closed (List.forall_mem_map.mpr each)
  have inner : Closed ("\n" ++ joinLines lines ++ "\n" ++ indent level).toList := by
    simp only [String.toList_append]
    exact ((lineFeed.shows.closed.append body).append lineFeed.shows.closed).append
      (shows_indent level).closed
  have enclosed : Shows false
      ('\x7b' :: (("\n" ++ joinLines lines ++ "\n" ++ indent level).toList ++ ['\x7d'])) :=
    inner.enclosed (by decide) (by decide)
  simpa [braced, String.toList_append] using enclosed

/-- The text of a type shows an operator if it is a union or an intersection, or a name that hides one. -/
theorem shows_printType {type : TypeExpr} (tidy : type.Tidy) {level : Nat} {text : String}
    (printed : printType type level = .ok text) :
    Shows (type.isCompound || type.hidesUnion) text.toList := by
  -- The parts of a type are printed at other levels, so the level stays quantified over.
  induction tidy generalizing level text with
  | @reference name args closed _ ih =>
    cases args with
    | nil =>
      cases printed
      exact closed.shows
    | cons first rest =>
      simp only [printType, Outcome.bind_eq_ok, Outcome.pure_eq_ok, printTypes_eq_mapM] at printed
      obtain ⟨texts, done, rfl⟩ := printed
      have each : ∀ part ∈ texts, Closed part.toList := by
        intro part mem
        obtain ⟨type, inside, made⟩ := Outcome.exists_item done mem
        exact (ih type inside made).closed
      have arguments : Shows false ('<' :: ((", ".intercalate texts).toList ++ ['>'])) :=
        (closed_commas each).enclosed (by decide) (by decide)
      simpa [String.toList_append, TypeExpr.isCompound, TypeExpr.hidesUnion] using
        closed.shows.append arguments
  | literal value =>
    cases printed
    exact shows_enumLiteral true value
  | @array element _ ih =>
    simp only [printType, Outcome.bind_eq_ok, Outcome.pure_eq_ok] at printed
    obtain ⟨inner, made, rfl⟩ := printed
    have brackets : Shows false "[]".toList := Closed.enclosed (by decide) (by decide) Shows.nil.closed
    have shown := ((ih made).parenthesized element.isCompound).append brackets
    -- A compound type is no name, so it hides nothing.
    have alone : (!element.isCompound && (element.isCompound || element.hidesUnion) || false)
        = element.hidesUnion := by
      cases element <;> simp [TypeExpr.isCompound, TypeExpr.hidesUnion]
    rw [alone] at shown
    simpa [String.toList_append, TypeExpr.isCompound, TypeExpr.hidesUnion] using shown
  | @union types several _ ih =>
    simp only [printType, Outcome.bind_eq_ok, Outcome.pure_eq_ok, printTypes_eq_mapM] at printed
    obtain ⟨texts, done, rfl⟩ := printed
    have shown := shows_operators " | " (Shows.operator (by decide)) several done
      fun type inside text made => (ih type inside made).closed
    simpa [TypeExpr.isCompound, Nat.lt_of_succ_le several] using shown
  | @intersection types several _ ih =>
    simp only [printType, Outcome.bind_eq_ok, Outcome.pure_eq_ok, printParts_eq_mapM] at printed
    obtain ⟨texts, done, rfl⟩ := printed
    have shown := shows_operators " & " (Shows.operator (by decide)) several done
      fun type inside text made => by
        -- A union inside an intersection stands in parentheses, and leaves nothing open either way.
        obtain ⟨inner, whole, rfl⟩ := Outcome.map_eq_ok.mp made
        exact ((ih type inside whole).parenthesized type.isAlternative).closed
    simpa [TypeExpr.isCompound, Nat.lt_of_succ_le several] using shown
  | @object members keys kept _ ih =>
    cases members with
    | nil =>
      cases printed
      exact Closed.enclosed (by decide) (by decide) Shows.nil.closed
    | cons first rest =>
      simp only [printType, Outcome.bind_eq_ok, Outcome.pure_eq_ok, printMemberLines_eq_mapM] at printed
      obtain ⟨lines, done, rfl⟩ := printed
      refine shows_lines (fun line mem => ?_) level
      obtain ⟨member, inside, made⟩ := Outcome.exists_item done mem
      simp only [Outcome.bind_eq_ok, Outcome.pure_eq_ok] at made
      obtain ⟨key, keyPrinted, text, typePrinted, rfl⟩ := made
      exact closed_memberLine _ _ (closed_printKey (keys member inside) keyPrinted) (kept member inside)
        (ih member inside typePrinted).closed _

end TypeScript

end TypedClient
