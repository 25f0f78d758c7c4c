import Mathlib.Data.List.TakeWhile
import TypedClient.Proofs.Text.Digit
import TypedClient.Proofs.TypeScript.TypeTokens
import TypedClient.Proofs.TypeScript.ValueReader
import TypedClient.Proofs.Value.Literal

/-! The text of a value at whatever depth it is written, read back as that value in doubles. -/

namespace TypedClient.TypeScript

mutual

/-- The tokens of a value. -/
def valueTokens : Value → List Token
  | .list items => .mark '[' :: (tokensOfItems items).flatten ++ [.mark ']']
  | .map members => .mark '\x7b' :: (tokensOfEntries members).flatten ++ [.mark '\x7d']
  | v => [literalToken v]

/-- The tokens of each item of a list, with the comma behind it. -/
def tokensOfItems : List Value → List (List Token)
  | [] => []
  | v :: rest => (valueTokens v ++ [.mark ',']) :: tokensOfItems rest

/-- The tokens of each member of a map, with the comma behind it. -/
def tokensOfEntries : Members → List (List Token)
  | [] => []
  | (key, v) :: rest =>
    (keyToken key.display :: .mark ':' :: valueTokens v ++ [.mark ',']) :: tokensOfEntries rest

end

/-- Each item has its own tokens. -/
theorem tokensOfItems_eq_map (items : List Value) :
    tokensOfItems items = items.map fun v => valueTokens v ++ [.mark ','] := by
  induction items with
  | nil => rfl
  | cons v rest ih => rw [tokensOfItems, ih, List.map_cons]

/-- Each entry has its own tokens. -/
theorem tokensOfEntries_eq_map (members : Members) :
    tokensOfEntries members = members.map fun m =>
      keyToken m.1.display :: .mark ':' :: valueTokens m.2 ++ [.mark ','] := by
  induction members with
  | nil => rfl
  | cons member rest ih => rw [tokensOfEntries, ih, List.map_cons]

/-- The items of a list are printed one by one, each on a line. -/
theorem printItems_eq_mapM (items : List Value) (level : Nat) :
    printItems items level = items.mapM fun v => do
      let text ← printValue v level
      return indent level ++ text ++ "," := by
  induction items with
  | nil => rfl
  | cons v rest ih => rw [printItems, List.mapM_cons, ih]; simp

/-- The members of a map are printed one by one, each on a line. -/
theorem printMembers_eq_mapM (members : Members) (level : Nat) :
    printMembers members level = members.mapM fun m => do
      let text ← printValue m.2 level
      return indent level ++ escapeKey m.1.display ++ ": " ++ text ++ "," := by
  induction members with
  | nil => rfl
  | cons member rest ih => rw [printMembers, List.mapM_cons, ih]; simp

/-- The printed text of a value spells its tokens at every depth. -/
def ValuePrintsTokens (v : Value) : Prop :=
  ∀ level, ∃ text, printValue v level = .ok text ∧ Spells text.toList (valueTokens v)

/-- Lines between brackets spell their tokens between marks. -/
theorem Spells.enclosed {opening closing : Char} (opens : opening ∈ marks) (closes : closing ∈ marks)
    {texts : List String} {lists : List (List Token)}
    (each : List.Forall₂ (fun text ts => Spells text.toList ts) texts lists) (level : Nat) :
    Spells (opening :: '\n' :: (joinLines texts).toList ++ '\n' :: ((indent level).toList ++ [closing]))
      (.mark opening :: lists.flatten ++ [.mark closing]) := by
  have closed := ((Spells.nil.mark closes).indented level).blank (c := '\n') (by decide)
  exact ((Spells.lines each).then_mark closed (by decide)).mark opens

/-- The lines of items spell the tokens of the items. -/
theorem printItems_spells {items : List Value} (each : ∀ v ∈ items, ValuePrintsTokens v) (level : Nat) :
    ∃ lines, printItems items level = .ok lines ∧
      List.Forall₂ (fun line ts => Spells line.toList ts) lines (tokensOfItems items) := by
  rw [printItems_eq_mapM, tokensOfItems_eq_map]
  refine mapM_spells fun v mem => ?_
  obtain ⟨text, printed, spelled⟩ := each v mem level
  -- The comma ends the text of the item, and the blanks before it part no tokens.
  have ended := spelled.then_mark (Spells.nil.mark (c := ',') (by decide)) (by decide)
  refine ⟨indent level ++ text ++ ",", by simp [printed], ?_⟩
  simpa [String.toList_append] using ended.indented level

/-- The lines of members spell the tokens of the members. -/
theorem printMembers_spells {members : Members} (keys : ∀ m ∈ members, ∃ s, m.1 = .text s ∧ TellsKey s)
    (each : ∀ m ∈ members, ValuePrintsTokens m.2) (level : Nat) :
    ∃ lines, printMembers members level = .ok lines ∧
      List.Forall₂ (fun line ts => Spells line.toList ts) lines (tokensOfEntries members) := by
  rw [printMembers_eq_mapM, tokensOfEntries_eq_map]
  refine mapM_spells fun member mem => ?_
  obtain ⟨text, printed, spelled⟩ := each member mem level
  obtain ⟨s, named, noNumber, ended⟩ := keys member mem
  have key : Spells (escapeKey member.1.display).toList [keyToken member.1.display] := by
    rw [named]
    exact escapeKey_spells noNumber ended
  -- The line is put together from its end: the comma, the value, the colon and the key.
  have valued := spelled.then_mark (Spells.nil.mark (c := ',') (by decide)) (by decide)
  have entry := key.then_mark ((valued.blank (c := ' ') (by decide)).mark (c := ':') (by decide)) (by decide)
  refine ⟨indent level ++ escapeKey member.1.display ++ ": " ++ text ++ ",", by simp [printed], ?_⟩
  simpa [String.toList_append] using entry.indented level

/-- The printed text of a literal value spells its tokens. -/
theorem printValue_spells {v : Value} (literal : v.IsLiteral) : ValuePrintsTokens v := by
  induction literal with
  | null => exact fun _ => ⟨"null", rfl, Spells.word (by decide)⟩
  | bool b =>
    intro level
    cases b with
    | false => exact ⟨"false", rfl, Spells.word (by decide)⟩
    | true => exact ⟨"true", rfl, Spells.word (by decide)⟩
  | int n => exact fun _ => ⟨_, rfl, Spells.int n⟩
  | text s => exact fun _ => ⟨_, rfl, Spells.text '\x27' (.inl rfl) s⟩
  | @list items _ ih =>
    intro level
    -- An empty list is written in one line, any other one with a line for each item.
    cases items with
    | nil => exact ⟨"[]", rfl, (Spells.nil.mark (c := ']') (by decide)).mark (c := '[') (by decide)⟩
    | cons v rest =>
      obtain ⟨lines, printed, spelled⟩ := printItems_spells ih (level + 1)
      refine ⟨"[\n" ++ joinLines lines ++ "\n" ++ indent level ++ "]", by simp [printValue, printed], ?_⟩
      have opens : '[' ∈ marks := by decide
      have closes : ']' ∈ marks := by decide
      have enclosed := Spells.enclosed opens closes spelled level
      simpa [String.toList_append, valueTokens] using enclosed
  | @map members keys _ _ ih =>
    intro level
    cases members with
    | nil =>
      exact ⟨braced "", rfl, (Spells.nil.mark (c := '\x7d') (by decide)).mark (c := '\x7b') (by decide)⟩
    | cons member rest =>
      obtain ⟨lines, printed, spelled⟩ := printMembers_spells keys ih (level + 1)
      refine ⟨braced ("\n" ++ joinLines lines ++ "\n" ++ indent level), by simp [printValue, printed], ?_⟩
      have opens : '\x7b' ∈ marks := by decide
      have closes : '\x7d' ∈ marks := by decide
      have enclosed := Spells.enclosed opens closes spelled level
      simpa [braced, String.toList_append, valueTokens] using enclosed

/-- The tokens of a value are read back as the value in doubles, whatever follows them. -/
def ValueReadsBack (v : Value) : Prop :=
  ∀ rest, value? (valueTokens v ++ rest) = some (v.inDoubles, rest)

/-- Items are read back one by one up to the bracket that closes their list. -/
theorem items?_tokensOfItems {items : List Value} (each : ∀ v ∈ items, ValueReadsBack v)
    (rest : List Token) :
    items? ((tokensOfItems items).flatten ++ .mark ']' :: rest) = some (Value.itemsInDoubles items, rest) := by
  induction items with
  | nil => exact items?_close rest
  | cons v others ih =>
    obtain ⟨first, each⟩ := List.forall_mem_cons.mp each
    let more := (tokensOfItems others).flatten ++ .mark ']' :: rest
    -- The item ends at its comma, behind which less is left.
    have found : value? (valueTokens v ++ .mark ',' :: more) = some (v.inDoubles, .mark ',' :: more) := first _
    have shorter : more.length < (valueTokens v ++ .mark ',' :: more).length := by
      simp only [List.length_append, List.length_cons]
      omega
    simpa [tokensOfItems, Value.itemsInDoubles, more] using items?_comma found shorter (ih each)

/-- A key is read back with the colon behind it. -/
theorem entryKey?_keyToken (s : String) (rest : List Token) :
    entryKey? (keyToken s :: .mark ':' :: rest) = some (s, rest) := by
  -- Whether the key is bare or in quotes makes no difference to what it is read as.
  by_cases plain : Name.isPlain s.toList <;> simp [keyToken, plain, entryKey?]

/-- Entries are read back one by one up to the brace that closes their object. -/
theorem entries?_tokensOfEntries {members : Members} (keys : ∀ m ∈ members, ∃ s, m.1 = .text s ∧ TellsKey s)
    (each : ∀ m ∈ members, ValueReadsBack m.2) (rest : List Token) :
    entries? ((tokensOfEntries members).flatten ++ .mark '\x7d' :: rest)
      = some (Value.membersInDoubles members, rest) := by
  induction members with
  | nil => exact entries?_close rest
  | cons member others ih =>
    obtain ⟨key, v⟩ := member
    obtain ⟨⟨s, (rfl : key = .text s), -⟩, laterKeys⟩ := List.forall_mem_cons.mp keys
    obtain ⟨(first : ValueReadsBack v), each⟩ := List.forall_mem_cons.mp each
    let more := (tokensOfEntries others).flatten ++ .mark '\x7d' :: rest
    let inner := valueTokens v ++ .mark ',' :: more
    -- The key ends at its colon and the value at its comma, and less is left behind each of them.
    have named : entryKey? (keyToken s :: .mark ':' :: inner) = some (s, inner) := entryKey?_keyToken s inner
    have found : value? inner = some (v.inDoubles, .mark ',' :: more) := first _
    have within : inner.length < (keyToken s :: .mark ':' :: inner).length := by
      simp only [List.length_cons]
      omega
    have shorter : more.length < (keyToken s :: .mark ':' :: inner).length := by
      simp only [inner, List.length_append, List.length_cons]
      omega
    simpa [tokensOfEntries, Value.membersInDoubles, Scalar.display, inner, more]
      using entries?_comma named found within shorter (ih laterKeys each)

/-- What is read as a number up to the end of a text consists of digits. -/
theorem digits_of_natural? {cs : List Char} {n : Nat} (read : natural? cs = some (n, [])) :
    cs ≠ [] ∧ ∀ c ∈ cs, c.isDigit = true := by
  have length := length_of_natural? read
  refine ⟨List.length_pos_iff.mp length, List.dropWhile_eq_nil_iff.mp ?_⟩
  unfold natural? at read
  split at read
  · cases read
  · cases read
  · split at read
    · cases read
    · exact (Prod.mk.inj (Option.some.inj read)).2

/-- A key that can be told is not the position of an item. -/
theorem arrayIndex?_of_tellsKey {s : String} (tells : TellsKey s) : arrayIndex? (.text s) = none := by
  cases read : natural? s.toList with
  | none => simp [arrayIndex?, read]
  | some found =>
    obtain ⟨n, _ | ⟨c, after⟩⟩ := found
    · -- Positions are written in digits alone.
      obtain ⟨nonempty, digits⟩ := digits_of_natural? read
      refine absurd ⟨mt String.toList_eq_nil_iff.mpr nonempty, List.all_eq_true.mpr fun c mem => ?_⟩ tells.1
      exact (Text.decimal_of_isDigit (digits c mem)).1
    · simp [arrayIndex?, read]

/-- Members under keys that are no positions are listed as they were added. -/
theorem inPropertyOrder_eq_self {members : Members} (none : ∀ m ∈ members, arrayIndex? m.1 = none) :
    inPropertyOrder members = members := by
  have positioned : (members.filterMap fun m => (arrayIndex? m.1).map fun position => (position, m)) = [] :=
    List.filterMap_eq_nil_iff.mpr fun m mem => by rw [none m mem, Option.map_none]
  have others : (members.filter fun m => (arrayIndex? m.1).isNone) = members :=
    List.filter_eq_self.mpr fun m mem => by rw [none m mem, Option.isNone_none]
  rw [inPropertyOrder, positioned, others]
  simp

/-- Entries that could be told from each other are the members of the object that they make. -/
theorem objectOf?_eq_map {entries : Members} (keys : ∀ m ∈ entries, ∃ s, m.1 = .text s ∧ TellsKey s)
    (distinct : (entries.map Prod.fst).Nodup) (owned : ∀ m ∈ entries, m.1 ≠ prototypeKey) :
    objectOf? entries = some (.map entries) := by
  have texts : ∀ m ∈ entries, ∃ t, m.1 = .text t := fun m mem => (keys m mem).imp fun _ both => both.1
  have none : (entries.filter (·.1 == prototypeKey)) = [] :=
    List.filter_eq_nil_iff.mpr fun m mem => by simpa using owned m mem
  have all : (entries.filter (·.1 != prototypeKey)) = entries :=
    List.filter_eq_self.mpr fun m mem => by simpa using owned m mem
  have listed : inPropertyOrder entries = entries := inPropertyOrder_eq_self fun m mem => by
    obtain ⟨s, named, tells⟩ := keys m mem
    rw [named, arrayIndex?_of_tellsKey tells]
  simp [objectOf?, none, all, Members.ofEntries_of_nodup texts distinct, listed]

/-- The tokens of every literal value are read back, if no member of it gives a prototype. -/
theorem valueReadsBack {v : Value} (literal : v.IsLiteral) (owned : v.GivesNoPrototype) : ValueReadsBack v := by
  induction literal with
  | null => exact fun rest => by simp [valueTokens, literalToken, value?, wordValue?, Value.inDoubles]
  | bool b => cases b <;> exact fun rest => by simp [valueTokens, literalToken, value?, wordValue?, Value.inDoubles]
  | int n => exact fun rest => by simp [valueTokens, literalToken, value?, Value.inDoubles]
  | text s => exact fun rest => by simp [valueTokens, literalToken, value?, Value.inDoubles]
  | @list items _ ih =>
    intro rest
    obtain ⟨-, each⟩ := Value.throughout_list.mp owned
    simp [valueTokens, value?, items?_tokensOfItems (fun v mem => ih v mem (each v mem)) rest, Value.inDoubles]
  | @map members keys distinct _ ih =>
    intro rest
    obtain ⟨own, each⟩ := Value.throughout_map.mp owned
    have read := entries?_tokensOfEntries keys (fun m mem => ih m mem (each m mem)) rest
    -- As no two entries are under one key, the object made of them has all of them in their order.
    have made : objectOf? (Value.membersInDoubles members) = some (.map (Value.membersInDoubles members)) := by
      refine objectOf?_eq_map ?_ (by rwa [Value.keys_membersInDoubles]) ?_ <;>
        rw [Value.membersInDoubles_eq_map, List.forall_mem_map]
      · exact keys
      · exact own members rfl
    simp [valueTokens, value?, read, made, Value.inDoubles]

/-- The text of a literal value spells its tokens to the end. -/
theorem tokens?_printValue {v : Value} (literal : v.IsLiteral) (level : Nat) :
    ∃ text, printValue v level = .ok text ∧ tokens? text.toList = some (valueTokens v) := by
  obtain ⟨text, printed, spelled⟩ := printValue_spells literal level
  -- Nothing follows the text that would go on with its last token.
  have whole := spelled [] (by simp [Ends])
  exact ⟨text, printed, by simpa using whole⟩

/-- The text of a literal value is read back as the value in doubles. -/
theorem readValue?_of_printValue {v : Value} (literal : v.IsLiteral) (owned : v.GivesNoPrototype) (level : Nat) :
    ∃ text, printValue v level = .ok text ∧ readValue? text = some v.inDoubles := by
  obtain ⟨text, printed, tokens⟩ := tokens?_printValue literal level
  have found := valueReadsBack literal owned []
  rw [List.append_nil] at found
  exact ⟨text, printed, by simp [readValue?, tokens, found]⟩

/--
The text of a literal value is read back as that value in doubles, at whatever depth it is written.

That is the same value, its members in their order, exactly if every integer in it is a double, as all of at most
fifty-three bits are.
-/
theorem readValue?_printValue {v : Value} (literal : v.IsLiteral) (owned : v.GivesNoPrototype) (level : Nat) :
    ∃ text, printValue v level = .ok text ∧ readValue? text = some v.inDoubles ∧
      (v.inDoubles.same v = true ↔ v.HasExactIntegers) ∧
      ((∀ n, Value.IsPart (.int n) v → n.natAbs ≤ 2 ^ 53) → v.HasExactIntegers) := by
  obtain ⟨text, printed, read⟩ := readValue?_of_printValue literal owned level
  refine ⟨text, printed, read, Value.same_inDoubles_iff literal, fun small part inside n whole => ?_⟩
  exact Floating.isDouble_ofInt (small n (whole ▸ inside))

/-- A map in a list in a map, with marks and an escape inside its texts and a key that needs quotes. -/
theorem readValue?_printValue_nested :
    let inner : Value := .map [(.text "it's", .text "a, b]\n\x7d"), (.text "", .null)]
    let v : Value := .map [(.text "$list", .list [.int (-12), .list [], inner]), (.text "none", .bool false)]
    v.IsLiteral ∧ v.GivesNoPrototype ∧
      ∃ text, printValue v 3 = .ok text ∧ readValue? text = some v.inDoubles ∧ v.inDoubles.same v = true := by
  intro inner v
  have innerLiteral : inner.IsLiteral := by
    refine .map ?_ (by decide) (by simp [Value.IsLiteral.text, Value.IsLiteral.null])
    simp only [List.forall_mem_cons, List.not_mem_nil, false_imp_iff, implies_true, and_true]
    exact ⟨⟨"it's", rfl, by decide⟩, "", rfl, by decide⟩
  have list : (Value.list [.int (-12), .list [], inner]).IsLiteral :=
    .list (by simp [Value.IsLiteral.int, Value.IsLiteral.list, innerLiteral])
  have literal : v.IsLiteral := by
    refine .map ?_ (by decide) (by simp [list, Value.IsLiteral.bool])
    simp only [List.forall_mem_cons, List.not_mem_nil, false_imp_iff, implies_true, and_true]
    exact ⟨⟨"$list", rfl, by decide⟩, "none", rfl, by decide⟩
  have owned : v.GivesNoPrototype := by
    simp [v, inner, Value.GivesNoPrototype, Value.throughout_map, Value.throughout_list, Value.throughout_scalar,
      List.forall_mem_cons, -List.mem_cons, -Prod.forall]
  have integers : v.HasExactIntegers := by
    simpa [v, inner, Value.HasExactIntegers, Value.throughout_map, Value.throughout_list, Value.throughout_scalar,
      List.forall_mem_cons, -List.mem_cons, -Prod.forall] using Floating.isDouble_ofInt (n := -12) (by decide)
  obtain ⟨text, printed, read, same, -⟩ := readValue?_printValue literal owned 3
  exact ⟨literal, owned, text, printed, read, same.mpr integers⟩

/-- An integer of fifty-four bits is read back as another one, and what gives a prototype is not read back. -/
theorem readValue?_printValue_other :
    let large : Value := .int 9007199254740993
    let other : Value := .float (.ofInt 9007199254740992)
    let prototype : Value := .map [(.text "__proto__", .int 1)]
    (large.IsLiteral ∧ ∃ text, printValue large 0 = .ok text ∧ readValue? text = some other ∧
      other.same large = false) ∧
    prototype.IsLiteral ∧ ∃ text, printValue prototype 0 = .ok text ∧ readValue? text = some (.map []) ∧
      (Value.map []).same prototype = false := by
  intro large other prototype
  refine ⟨⟨.int _, ?_⟩, ?_⟩
  · have owned : (Value.int 9007199254740993).GivesNoPrototype :=
      (Value.throughout_scalar _).mpr fun members whole => by cases whole
    obtain ⟨text, printed, read⟩ := readValue?_of_printValue (.int _) owned 0
    have nearest : Double.ofInt 9007199254740993 = Double.ofInt 9007199254740992 := by decide +kernel
    rw [Value.inDoubles, nearest] at read
    exact ⟨text, printed, read, by decide +kernel⟩
  · have literal : (Value.map [(.text "__proto__", .int 1)]).IsLiteral :=
      .map (by simp; decide) (by decide) (by simp [Value.IsLiteral.int])
    obtain ⟨text, printed, tokens⟩ := tokens?_printValue literal 0
    refine ⟨literal, text, printed, ?_, by decide +kernel⟩
    have entry : valueTokens (.map [(.text "__proto__", .int 1)])
        = [.mark '\x7b', .word "__proto__", .mark ':', .number 1, .mark ',', .mark '\x7d'] := by decide +kernel
    rw [readValue?, tokens, entry]
    -- The entry is read and then ignored, since a number is no prototype.
    simp [value?, entries?, entryKey?, objectOf?, prototypeKey, isPrototype, Members.ofEntries, inPropertyOrder]

end TypedClient.TypeScript
