import TypedClient.Declaration.Operations
import TypedClient.Proofs.Name.Identifier
import TypedClient.Proofs.Text.Ascii

/-! Names in camel case stay what they are when they are put in camel case again. -/

namespace TypedClient.Name

open Text (isHump isWordChar isAsciiUpper isAsciiLower wordsBy)

/-- A text is made of words in their order, with one or more separators between each two of them. -/
inductive Joins : List (List Char) → List Char → Prop
  | word (w : List Char) : Joins [w] w
  | cons {w gap text : List Char} {words : List (List Char)} (some : gap ≠ [])
      (separates : ∀ c ∈ gap, isSeparator c = true) (joins : Joins words text) :
      Joins (w :: words) (w ++ gap ++ text)

/-- A word of two or more small letters of the ASCII alphabet. -/
def IsSmall (w : List Char) : Prop :=
  2 ≤ w.length ∧ ∀ c ∈ w, c.isLower = true

/-- A word with a capital for its first letter. -/
def withCapital (w : List Char) : List Char :=
  w.modifyHead Char.toUpper

/-- A word that begins with a letter and goes on with one or more small ones. -/
def IsCasedWord (v : List Char) : Prop :=
  ∃ first rest, v = first :: rest ∧ first.isAlpha = true ∧ rest ≠ [] ∧ ∀ c ∈ rest, c.isLower = true

variable {words tail : List (List Char)} {text v w gap cs : List Char} {c : Char}

/-- Small letters are no capitals and no separators, and letters are no separators. -/
theorem facts_of_letter (letter : c.isAlpha = true) : isSeparator c = false ∧ c.toNat < 128 ∧
    isAsciiUpper c = c.isUpper ∧ isAsciiLower c = c.isLower ∧ (c.isLower = true → c.isUpper = false) := by
  have small : c.toNat < 128 := Text.lt_of_isAlphanum (Bool.or_eq_true_iff.mpr (.inl letter))
  have facts : c.isAlpha = true → isSeparator c = false ∧ isAsciiUpper c = c.isUpper ∧
      isAsciiLower c = c.isLower ∧ (c.isLower = true → c.isUpper = false) := by
    apply Text.of_codes (c := c) ?_ small
    decide +kernel
  exact ⟨(facts letter).1, small, (facts letter).2⟩

/-- Separators in front of a text are no part of any word. -/
theorem wordsBy_gap (separates : ∀ c ∈ gap, isSeparator c = true) (text : List Char) :
    wordsBy isSeparator (gap ++ text) = wordsBy isSeparator text := by
  induction gap with
  | nil => rfl
  | cons c rest ih =>
    obtain ⟨first, others⟩ := List.forall_mem_cons.mp separates
    rw [List.cons_append, ← ih others]
    cases rest ++ text <;> simp [wordsBy, first]

/-- A word that a separator or nothing follows is the first one of its text. -/
theorem wordsBy_append (some : w ≠ []) (joined : IsJoined w) (ends : ∀ c ∈ cs.head?, isSeparator c = true) :
    wordsBy isSeparator (w ++ cs) = w :: wordsBy isSeparator cs := by
  induction w with
  | nil => exact absurd rfl some
  | cons c rest ih =>
    obtain ⟨plain, others⟩ := List.forall_mem_cons.mp joined
    cases rest with
    | nil =>
      -- The word ends with its last character, since a separator or nothing follows.
      cases cs with
      | nil => simp [wordsBy, plain]
      | cons d cs =>
        have next : isSeparator d = true := ends d rfl
        rw [List.singleton_append, wordsBy]
        simp [plain, next]
    | cons d rest =>
      have next : isSeparator d = false := others d List.mem_cons_self
      have behind := ih (List.cons_ne_nil d rest) others
      rw [List.cons_append] at behind
      rw [List.cons_append, List.cons_append, wordsBy]
      simp [plain, next, behind]

/-- The words of a text are those that it is made of. -/
theorem Joins.wordsBy_eq (joins : Joins words text) (some : ∀ w ∈ words, w ≠ [])
    (joined : ∀ w ∈ words, IsJoined w) : wordsBy isSeparator text = words := by
  induction joins with
  | word w =>
    have whole : wordsBy isSeparator (w ++ []) = [w] :=
      wordsBy_append (some w List.mem_cons_self) (joined w List.mem_cons_self) (by simp)
    rwa [List.append_nil] at whole
  | @cons w gap text words gapSome separates _ ih =>
    obtain ⟨firstSome, some⟩ := List.forall_mem_cons.mp some
    obtain ⟨first, joined⟩ := List.forall_mem_cons.mp joined
    obtain ⟨c, gap, rfl⟩ := List.exists_cons_of_ne_nil gapSome
    rw [List.append_assoc, wordsBy_append firstSome first, wordsBy_gap separates, ih some joined]
    simpa using separates c List.mem_cons_self

/-- A text that is made of words begins and ends with a word, so nothing of it is trimmed. -/
theorem Joins.trim_eq (joins : Joins words text) (some : ∀ w ∈ words, w ≠ [])
    (joined : ∀ w ∈ words, IsJoined w) : Text.trim text = text := by
  -- Trimming looks at both ends only, and no word has a separator for one.
  have ends : text ≠ [] ∧ (∀ c ∈ text.head?, isSeparator c = false) ∧
      ∀ c ∈ text.getLast?, isSeparator c = false := by
    induction joins with
    | word w =>
      have inside := joined w List.mem_cons_self
      exact ⟨some w List.mem_cons_self, fun c mem => inside c (List.mem_of_mem_head? mem),
        fun c mem => inside c (List.mem_of_getLast? mem)⟩
    | @cons w gap text words _ _ _ ih =>
      obtain ⟨firstSome, some⟩ := List.forall_mem_cons.mp some
      obtain ⟨first, joined⟩ := List.forall_mem_cons.mp joined
      obtain ⟨textSome, -, last⟩ := ih some joined
      refine ⟨by simp [firstSome], fun c mem => ?_, fun c mem => ?_⟩
      · rw [List.append_assoc, List.head?_append_of_ne_nil w firstSome] at mem
        exact first c (List.mem_of_mem_head? mem)
      · rw [List.getLast?_append_of_ne_nil _ textSome] at mem
        exact last c mem
  have solid {c : Char} (plain : isSeparator c = false) : Text.isBlank c = false :=
    Bool.eq_false_iff.mpr fun blank => by cases plain.symm.trans (isSeparator_of_isBlank blank)
  exact Text.trim_eq_self (fun c mem => solid (ends.2.1 c mem)) fun c mem => solid (ends.2.2 c mem)

/-- No capital stands next to another one, so no acronym is set apart. -/
theorem splitAcronyms_eq_self (apart : cs.IsChain fun a b => ¬(isAsciiUpper a = true ∧ isAsciiUpper b = true)) :
    splitAcronyms cs = cs := by
  fun_induction splitAcronyms cs with
  | case1 a b c rest split =>
    simp only [Bool.and_eq_true] at split
    exact absurd split.1 (List.isChain_cons_cons.mp apart).1
  | case2 a b c rest _ ih => rw [ih apart.tail]
  | case3 => rfl

/-- Nothing is set apart where no hump is. -/
theorem splitHumps_cons {a b : Char} (smooth : isHump a b = false) :
    splitHumps (a :: b :: cs) = a :: splitHumps (b :: cs) := by
  rw [splitHumps, if_neg]
  intro split
  simp only [Bool.and_eq_true, Bool.or_eq_true] at split
  have hump : isHump a b = true := by
    simp only [isHump, isWordChar, Bool.and_eq_true, Bool.or_eq_true, split.2, and_true]
    exact split.1.imp .inl id
  cases smooth.symm.trans hump

/-- A text without humps is kept as it is. -/
theorem splitHumps_eq_self (smooth : cs.IsChain fun a b => isHump a b = false) : splitHumps cs = cs := by
  induction cs with
  | nil => rfl
  | cons a rest ih =>
    cases rest with
    | nil => rfl
    | cons b rest =>
      obtain ⟨first, others⟩ := List.isChain_cons_cons.mp smooth
      rw [splitHumps_cons first, ih others]

/-- A capital behind a text without humps is set apart from a small letter at its end. -/
theorem splitHumps_append {a b : Char} (smooth : v.IsChain fun a b => isHump a b = false)
    (last : v.getLast? = some a) (small : isAsciiLower a = true) (capital : isAsciiUpper b = true) :
    splitHumps (v ++ b :: cs) = v ++ ['_'] ++ splitHumps (b :: cs) := by
  induction v with
  | nil => cases last
  | cons c rest ih =>
    cases rest with
    | nil =>
      -- The only hump is between the last letter of the text and the capital.
      obtain rfl : c = a := by simpa using last
      simp [splitHumps, small, capital]
    | cons d rest =>
      obtain ⟨first, others⟩ := List.isChain_cons_cons.mp smooth
      have behind := ih others (by simpa using last)
      rw [List.cons_append] at behind
      rw [List.cons_append, List.cons_append, splitHumps_cons first, behind]
      rfl

/-- A word that goes on with small letters has no capital but its first letter, and a small letter at its end. -/
theorem IsCasedWord.facts (cased : IsCasedWord v) : v ≠ [] ∧ (∀ c ∈ v, c.isAlpha = true) ∧
    (∀ c ∈ v.tail, isAsciiUpper c = false) ∧
      ∃ c, v.getLast? = some c ∧ isAsciiLower c = true ∧ isAsciiUpper c = false := by
  obtain ⟨first, rest, rfl, letter, some, small⟩ := cased
  have alpha {c : Char} (mem : c ∈ rest) : c.isAlpha = true := Text.isAlpha_of_isLower (small c mem)
  have noCapital {c : Char} (mem : c ∈ rest) : isAsciiUpper c = false := by
    obtain ⟨-, -, upper, -, none⟩ := facts_of_letter (alpha mem)
    rw [upper, none (small c mem)]
  have mem := List.getLast_mem some
  refine ⟨by simp, List.forall_mem_cons.mpr ⟨letter, fun c => alpha⟩, fun c => noCapital,
    rest.getLast some, ?_, ?_, noCapital mem⟩
  · rw [List.getLast?_cons_of_ne_nil some, List.getLast?_eq_some_getLast some]
  · rw [(facts_of_letter (alpha mem)).2.2.2.1, small _ mem]

/-- Where no capital follows the first character, any two neighbours are as asked if a capital behind the first of them
is the only way not to be. -/
theorem isChain_of_tail {R : Char → Char → Prop} (held : ∀ a b, isAsciiUpper b = false → R a b)
    (small : ∀ c ∈ v.tail, isAsciiUpper c = false) : v.IsChain R := by
  induction v with
  | nil => exact .nil
  | cons c rest ih =>
    refine List.isChain_cons.mpr ⟨fun d mem => held c d (small d (List.mem_of_mem_head? mem)), ih fun d mem => ?_⟩
    exact small d (List.mem_of_mem_tail mem)

/-- A small word is a cased one, with a capital too, which begins with a capital then. -/
theorem IsSmall.facts (small : IsSmall w) : IsCasedWord w ∧ IsCasedWord (withCapital w) ∧
    ∃ b rest, withCapital w = b :: rest ∧ isAsciiUpper b = true := by
  obtain ⟨long, lower⟩ := small
  match w, long with
  | c :: d :: rest, _ =>
    obtain ⟨first, others⟩ := List.forall_mem_cons.mp lower
    have alpha : c.isAlpha = true := Text.isAlpha_of_isLower first
    obtain ⟨-, -, -, upper, -⟩ := Text.cases_of_ascii (facts_of_letter alpha).2.1
    rw [alpha] at upper
    have capital : c.toUpper.isAlpha = true := Text.isAlpha_of_isUpper upper
    refine ⟨⟨c, d :: rest, rfl, alpha, by simp, others⟩, ⟨c.toUpper, d :: rest, rfl, capital, by simp, others⟩,
      c.toUpper, d :: rest, rfl, ?_⟩
    rw [(facts_of_letter capital).2.2.1, upper]

/-- No capital stands next to another one in a cased word with small words behind it that have capitals. -/
theorem isChain_cased (cased : IsCasedWord v) (small : ∀ w ∈ tail, IsSmall w) :
    (v ++ tail.flatMap withCapital).IsChain fun a b => ¬(isAsciiUpper a = true ∧ isAsciiUpper b = true) := by
  induction tail generalizing v with
  | nil =>
    rw [List.flatMap_nil, List.append_nil]
    exact isChain_of_tail (fun a b plain both => by cases plain.symm.trans both.2) cased.facts.2.2.1
  | cons w tail ih =>
    obtain ⟨first, others⟩ := List.forall_mem_cons.mp small
    obtain ⟨-, -, noCapital, a, last, -, noLast⟩ := cased.facts
    have own := isChain_of_tail (R := fun a b => ¬(isAsciiUpper a = true ∧ isAsciiUpper b = true))
      (fun a b plain both => by cases plain.symm.trans both.2) noCapital
    refine List.isChain_append.mpr ⟨own, ih first.facts.2.1 others, fun c mem d _ both => ?_⟩
    -- The seam follows a small letter.
    obtain rfl : a = c := Option.some.inj (last.symm.trans mem)
    cases noLast.symm.trans both.1

/-- Words with capitals behind a cased word are set apart by single marks. -/
theorem joins_splitHumps (cased : IsCasedWord v) (small : ∀ w ∈ tail, IsSmall w) :
    Joins (v :: tail.map withCapital) (splitHumps (v ++ tail.flatMap withCapital)) := by
  -- The first word stays general, as each of the others is the first one of what follows it.
  induction tail generalizing v with
  | nil =>
    rw [List.flatMap_nil, List.append_nil, splitHumps_eq_self (isChain_of_tail ?_ cased.facts.2.2.1)]
    · exact .word v
    · intro a b plain
      simp [isHump, plain]
  | cons w tail ih =>
    obtain ⟨first, others⟩ := List.forall_mem_cons.mp small
    obtain ⟨-, -, noCapital, a, last, lower, -⟩ := cased.facts
    obtain ⟨-, next, b, rest, begins, capital⟩ := first.facts
    have smooth := isChain_of_tail (R := fun a b => isHump a b = false)
      (fun a b plain => by simp [isHump, plain]) noCapital
    have behind := ih next others
    rw [begins, List.cons_append] at behind
    rw [List.flatMap_cons, List.map_cons, begins, List.cons_append,
      splitHumps_append smooth last lower capital]
    exact .cons (by simp) (by simp [isSeparator]) behind

/-- Cased words are joined by no separators of their own. -/
theorem IsCasedWord.isJoined (cased : IsCasedWord v) : IsJoined v :=
  fun c mem => (facts_of_letter (cased.facts.2.1 c mem)).1

/-- Small words stay as they are in lower case, and with a capital they are what they are capitalized. -/
theorem IsSmall.cases (small : IsSmall w) : Text.toLower w = w ∧ Text.toLower (withCapital w) = w ∧
    Text.capitalize w = withCapital w ∧ withCapital (withCapital w) = withCapital w := by
  obtain ⟨long, lower⟩ := small
  match w, long with
  | c :: rest, _ =>
    -- All that has to be known of the word is known of its characters, of which the first is changed.
    have alpha {d : Char} (mem : d ∈ c :: rest) : d.isAlpha = true := Text.isAlpha_of_isLower (lower d mem)
    have ascii : ∀ d ∈ c :: rest, d.toNat < 128 := fun d mem => (facts_of_letter (alpha mem)).2.1
    have kept {d : Char} (mem : d ∈ c :: rest) : d.toLower = d :=
      ((Text.cases_of_ascii (ascii d mem)).2.2.2.2 (lower d mem)).1
    obtain ⟨small, others⟩ := List.forall_mem_cons.mp ascii
    obtain ⟨-, -, -, upper, both⟩ := Text.cases_of_ascii small
    obtain ⟨-, back, again⟩ := both (lower c List.mem_cons_self)
    have capital : c.toUpper.isAlpha = true := Text.isAlpha_of_isUpper (upper.trans (alpha List.mem_cons_self))
    have same : rest.map Char.toLower = rest :=
      (List.map_congr_left fun d mem => kept (List.mem_cons_of_mem c mem)).trans (List.map_id rest)
    have capitals : ∀ d ∈ c.toUpper :: rest, d.toNat < 128 :=
      List.forall_mem_cons.mpr ⟨(facts_of_letter capital).2.1, others⟩
    refine ⟨?_, ?_, ?_, ?_⟩
    · rw [Text.toLower_of_ascii ascii, List.map_cons, same, kept List.mem_cons_self]
    · rw [withCapital, List.modifyHead_cons, Text.toLower_of_ascii capitals, List.map_cons, same, back]
    · rw [Text.capitalize_of_ascii ascii, same]
      rfl
    · simp [withCapital, again]

/-- A text that is made of small words has no capital. -/
theorem Joins.noCapital (joins : Joins words text) (small : ∀ w ∈ words, IsSmall w) :
    ∀ c ∈ text, isAsciiUpper c = false := by
  have plain {w : List Char} (small : IsSmall w) : ∀ c ∈ w, isAsciiUpper c = false := fun c mem => by
    obtain ⟨-, -, upper, -, none⟩ := facts_of_letter (Text.isAlpha_of_isLower (small.2 c mem))
    rw [upper, none (small.2 c mem)]
  induction joins with
  | word w => exact plain (small w List.mem_cons_self)
  | cons _ separates _ ih =>
    obtain ⟨first, others⟩ := List.forall_mem_cons.mp small
    refine List.forall_mem_append.mpr ⟨List.forall_mem_append.mpr ⟨plain first, fun c mem => ?_⟩, ih others⟩
    refine Bool.eq_false_iff.mpr fun capital => ?_
    cases (separates c mem).symm.trans (isSeparator_of_isAsciiUpper capital)

/-- The words of a text that is made of small words are these. -/
theorem words_of_joins (joins : Joins words text) (small : ∀ w ∈ words, IsSmall w) : Name.words text = words := by
  have noCapital : ∀ c ∈ text.tail, isAsciiUpper c = false := fun c mem =>
    joins.noCapital small c (List.mem_of_mem_tail mem)
  have some : ∀ w ∈ words, w ≠ [] := fun w mem => (small w mem).facts.1.facts.1
  have joined : ∀ w ∈ words, IsJoined w := fun w mem => (small w mem).facts.1.isJoined
  -- Without capitals there is nothing to set apart.
  rw [Name.words, joins.trim_eq some joined,
    splitAcronyms_eq_self (isChain_of_tail (fun a b plain both => by cases plain.symm.trans both.2) noCapital),
    splitHumps_eq_self (isChain_of_tail (fun a b plain => by simp [isHump, plain]) noCapital),
    joins.wordsBy_eq some joined]
  exact (List.map_congr_left fun w mem => (small w mem).cases.1).trans (List.map_id words)

/-- The words of small words with capitals behind a cased word are these words in lower case. -/
theorem words_of_cased (cased : IsCasedWord v) (small : ∀ w ∈ tail, IsSmall w) :
    Name.words (v ++ tail.flatMap withCapital) = Text.toLower v :: tail := by
  have each : ∀ w ∈ v :: tail.map withCapital, IsCasedWord w :=
    List.forall_mem_cons.mpr ⟨cased, List.forall_mem_map.mpr fun w mem => (small w mem).facts.2.1⟩
  have joined : IsJoined (v ++ tail.flatMap withCapital) := by
    refine List.forall_mem_append.mpr ⟨cased.isJoined, fun c mem => ?_⟩
    obtain ⟨w, inside, mem⟩ := List.mem_flatMap.mp mem
    exact (small w inside).facts.2.1.isJoined c mem
  rw [Name.words, trim_of_isJoined joined, splitAcronyms_eq_self (isChain_cased cased small),
    (joins_splitHumps cased small).wordsBy_eq (fun w mem => (each w mem).facts.1) fun w mem => (each w mem).isJoined,
    List.map_cons, List.map_map]
  congr 1
  exact (List.map_congr_left fun w mem => (small w mem).cases.2.1).trans (List.map_id tail)

/-- Small words are joined with capitals for their first letters, the first of them only where it is asked. -/
theorem joinCamel_of_small (pascal : Bool) (first : IsSmall w) (others : ∀ w ∈ tail, IsSmall w) :
    joinCamel pascal (w :: tail) = (if pascal then withCapital w else w) ++ tail.flatMap withCapital := by
  have capitals : tail.flatMap Text.capitalize = tail.flatMap withCapital :=
    List.flatMap_congr fun w mem => (others w mem).cases.2.2.1
  rw [joinCamel, capitals, first.cases.2.2.1]

/-- A capital for the first letter of a text is one for that of its first word. -/
theorem withCapital_append (some : v ≠ []) (cs : List Char) : withCapital (v ++ cs) = withCapital v ++ cs := by
  obtain ⟨c, rest, rfl⟩ := List.exists_cons_of_ne_nil some
  rfl

end TypedClient.Name

namespace TypedClient

open Name (Joins IsSmall isSeparator withCapital)

/-- A name whose words are small is made in camel case of these words with capitals, the first of them only where that
is asked. -/
theorem camelCase_of_words {name : String} {head : List Char} {tail : List (List Char)}
    (words : Name.words name.toList = head :: tail) (small : ∀ w ∈ head :: tail, IsSmall w) :
    camelCase name = String.ofList (head ++ tail.flatMap withCapital) ∧
      pascalCase name = String.ofList (withCapital head ++ tail.flatMap withCapital) := by
  obtain ⟨first, others⟩ := List.forall_mem_cons.mp small
  rw [camelCase, pascalCase, Name.camel, Name.camel, words, Name.joinCamel_of_small false first others,
    Name.joinCamel_of_small true first others]
  exact ⟨rfl, rfl⟩

/-- Small words are put in camel case with capitals for all but the first of them, or for all, and their names are kept
when they are put in camel case again: the names of the types of an operation show them with a capital first letter. -/
theorem camelCase_of_joins (text : String) (head : List Char) (tail : List (List Char))
    (joins : Joins (head :: tail) text.toList) (small : ∀ w ∈ head :: tail, IsSmall w) :
    camelCase text = String.ofList (head ++ tail.flatMap withCapital) ∧
      pascalCase text = String.ofList (withCapital head ++ tail.flatMap withCapital) ∧
      (∀ cased ∈ [camelCase text, pascalCase text],
        camelCase cased = camelCase text ∧ pascalCase cased = pascalCase text) ∧
      ∀ operation : Operation,
        (operation.name ∈ [camelCase text, pascalCase text] →
          operation.dataTypeName =
              pascalCase operation.service ++ String.ofList (withCapital operation.name.toList) ++ "Data" ∧
            operation.responseTypeName =
              pascalCase operation.service ++ String.ofList (withCapital operation.name.toList) ++ "Response") ∧
        (operation.service ∈ [camelCase text, pascalCase text] →
          operation.dataTypeName =
              String.ofList (withCapital operation.service.toList) ++ pascalCase operation.name ++ "Data" ∧
            operation.responseTypeName =
              String.ofList (withCapital operation.service.toList) ++ pascalCase operation.name ++ "Response") := by
  obtain ⟨first, others⟩ := List.forall_mem_cons.mp small
  obtain ⟨firstCased, firstCapital, -⟩ := first.facts
  obtain ⟨lower, lowered, -, again⟩ := first.cases
  obtain ⟨low, high⟩ := camelCase_of_words (Name.words_of_joins joins small) small
  -- Both names begin with a cased word that is the first word in lower case.
  have recased {v : List Char} (cased : Name.IsCasedWord v) (lower : Text.toLower v = head)
      (capital : withCapital v = withCapital head) {name : String}
      (same : name = String.ofList (v ++ tail.flatMap withCapital)) :
      camelCase name = camelCase text ∧ pascalCase name = pascalCase text ∧
        pascalCase name = String.ofList (withCapital name.toList) := by
    have words : Name.words name.toList = head :: tail := by
      rw [same, String.toList_ofList, Name.words_of_cased cased others, lower]
    have whole : withCapital name.toList = withCapital head ++ tail.flatMap withCapital := by
      rw [same, String.toList_ofList, Name.withCapital_append cased.facts.1, capital]
    obtain ⟨camel, pascal⟩ := camelCase_of_words words small
    exact ⟨camel.trans low.symm, pascal.trans high.symm, by rw [pascal, whole]⟩
  have kept : ∀ cased ∈ [camelCase text, pascalCase text], camelCase cased = camelCase text ∧
      pascalCase cased = pascalCase text ∧ pascalCase cased = String.ofList (withCapital cased.toList) := by
    simp only [List.forall_mem_cons, List.not_mem_nil, false_imp_iff, implies_true, and_true]
    exact ⟨recased firstCased lower rfl low, recased firstCapital lowered again high⟩
  refine ⟨low, high, fun cased mem => ⟨(kept cased mem).1, (kept cased mem).2.1⟩, fun operation => ⟨?_, ?_⟩⟩
  all_goals
    intro mem
    rw [Operation.dataTypeName, Operation.responseTypeName, Operation.typeName, (kept _ mem).2.2]
    exact ⟨rfl, rfl⟩

/-- Three words with separators of every kind between them. -/
theorem camelCase_of_joins_three : Joins ["get".toList, "all".toList, "users".toList] "get_-all. users".toList ∧
    camelCase "get_-all. users" = "getAllUsers" ∧ pascalCase "getAllUsers" = "GetAllUsers" ∧
      camelCase "GetAllUsers" = "getAllUsers" := by
  have joins : Joins ["get".toList, "all".toList, "users".toList] "get_-all. users".toList :=
    .cons (by decide : "_-".toList ≠ []) (by simp [isSeparator])
      (.cons (by decide : ". ".toList ≠ []) (List.all_eq_true.mp (by decide +kernel)) (.word "users".toList))
  have small : ∀ w ∈ ["get".toList, "all".toList, "users".toList], IsSmall w := by simp [IsSmall]
  obtain ⟨low, high, again, -⟩ :=
    camelCase_of_joins "get_-all. users" "get".toList ["all".toList, "users".toList] joins small
  have low : camelCase "get_-all. users" = "getAllUsers" := low.trans (by decide +kernel)
  have high : pascalCase "get_-all. users" = "GetAllUsers" := high.trans (by decide +kernel)
  rw [low, high] at again
  exact ⟨joins, low, (again _ List.mem_cons_self).2, (again _ (List.mem_cons_of_mem _ List.mem_cons_self)).1⟩

end TypedClient
