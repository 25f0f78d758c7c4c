import TypedClient.Name.Identifier
import TypedClient.Proofs.Name.Words
import TypedClient.Proofs.Text.Identifier
import TypedClient.Proofs.TypeScript.Token

/-! Names in camel case: when they are legal identifiers, and when two of them are the same. -/

namespace TypedClient.Name

open Text (isIdentifierStart isIdentifierPart isHump capitalize toLower wordsBy)
open TypeScript (isIdentifierName)

/-- A text without its separators. -/
def unseparated (cs : List Char) : List Char :=
  cs.filter fun c => !isSeparator c

/-- A name that is legal for a variable: one that is made as names are, and no reserved word. -/
structure IsLegalName (name : String) : Prop where
  identifier : isIdentifierName name = true
  free : name ∉ reservedWords

/-- The text has a letter, as the part of a name that is used begins with one; the underscore is none. -/
def HasLetter (cs : List Char) : Prop :=
  ∃ c ∈ cs, c ≠ '_' ∧ Text.isLetterLike c = true

/-- Words as a text shows them that they are joined in: a word goes on with the one before it unless a hump
parts the two. -/
def shown : List (List Char) → List (List Char)
  | [] => []
  | w :: rest => joinSeam [w] (shown rest)

/-- The words of a text as its name in camel case shows them. -/
def shownWords (cs : List Char) : List (List Char) :=
  match Name.words cs with
  | [] => []
  | head :: tail => shown (head :: tail.map capitalize)

instance (cs : List Char) : Decidable (HasLetter cs) :=
  List.decidableBEx (fun c => c ≠ '_' ∧ Text.isLetterLike c = true) cs

variable {cs rest : List Char} {c : Char} {w : List Char} {words : List (List Char)}

/-- A text is made as names are if it begins and goes on as they do. -/
theorem isIdentifierName_iff : isIdentifierName (String.ofList cs) = true ↔
    cs.head?.map isIdentifierStart = some true ∧ ∀ c ∈ cs, isIdentifierPart c = true := by
  rw [isIdentifierName, String.toList_ofList]
  cases cs with
  | nil => simp
  | cons c rest =>
    simp only [Bool.and_eq_true, List.all_eq_true, List.head?_cons, Option.map_some, Option.some.injEq,
      List.forall_mem_cons]
    refine and_congr_right fun start => ?_
    simp [Text.isIdentifierPart_of_isIdentifierStart start]

/-- Setting acronyms apart adds only separators. -/
theorem unseparated_splitAcronyms (cs : List Char) : unseparated (splitAcronyms cs) = unseparated cs := by
  fun_induction splitAcronyms cs with
  | case1 a b c rest _ ih =>
    have mark : isSeparator '_' = true := rfl
    simp_all [unseparated, List.filter_cons]
  | case2 a b c rest _ ih => simp_all [unseparated, List.filter_cons]
  | case3 => rfl

/-- Setting humps apart adds only separators. -/
theorem unseparated_splitHumps (cs : List Char) : unseparated (splitHumps cs) = unseparated cs := by
  fun_induction splitHumps cs with
  | case1 a b rest _ ih =>
    have mark : isSeparator '_' = true := rfl
    simp_all [unseparated, List.filter_cons]
  | case2 a b rest _ ih => simp_all [unseparated, List.filter_cons]
  | case3 => rfl

/-- The words of a text are what is left of it without separators. -/
theorem flatten_wordsBy (cs : List Char) : (wordsBy isSeparator cs).flatten = unseparated cs := by
  fun_induction wordsBy isSeparator cs <;> simp_all [unseparated]

/-- Nothing is left of separators alone. -/
theorem unseparated_eq_nil_iff : unseparated cs = [] ↔ ∀ c ∈ cs, isSeparator c = true := by
  simp [unseparated]

/-- What holds of all characters that are no separators holds of all but separators. -/
theorem forall_mem_unseparated {P : Char → Prop} :
    (∀ c ∈ unseparated cs, P c) ↔ ∀ c ∈ cs, isSeparator c = true ∨ P c := by
  simp only [unseparated, List.mem_filter, and_imp, Bool.not_eq_true', ← Bool.not_eq_true,
    or_iff_not_imp_left]

/-- A blank stands between words. -/
theorem isSeparator_of_isBlank (blank : Text.isBlank c = true) : isSeparator c = true := by
  simp [isSeparator, blank]

/-- Trimming a text takes nothing but separators from it. -/
theorem unseparated_trim (cs : List Char) : unseparated (Text.trim cs) = unseparated cs := by
  have append (front back : List Char) :
      unseparated (front ++ back) = unseparated front ++ unseparated back := List.filter_append ..
  have none {blanks : List Char} (all : ∀ c ∈ blanks, Text.isBlank c = true) : unseparated blanks = [] :=
    unseparated_eq_nil_iff.mpr fun c mem => isSeparator_of_isBlank (all c mem)
  obtain ⟨trail, whole, blank⟩ := Text.exists_trail (cs.dropWhile Text.isBlank)
  conv_rhs => rw [← List.takeWhile_append_dropWhile (p := Text.isBlank) (l := cs), whole]
  rw [append, append, none fun c mem => List.mem_takeWhile_imp mem, none blank, List.append_nil,
    List.nil_append, Text.trim]

/-- The words of a name are those of its text without separators, in lower case. -/
theorem exists_words (cs : List Char) : ∃ parts : List (List Char), Name.words cs = parts.map toLower ∧
    parts.flatten = unseparated cs ∧ ∀ w ∈ parts, w ≠ [] := by
  refine ⟨_, rfl, ?_, fun w mem => (facts_of_mem_wordsBy mem).1⟩
  rw [flatten_wordsBy, unseparated_splitHumps, unseparated_splitAcronyms, unseparated_trim]

/-- Words in camel case are made of parts of names exactly if the words are. -/
theorem isIdentifierPart_joinCamel (pascal : Bool) :
    (∀ d ∈ joinCamel pascal words, isIdentifierPart d = true) ↔
      ∀ w ∈ words, ∀ d ∈ w, isIdentifierPart d = true := by
  -- A capital for its first letter does not change whether a word is made of parts of names.
  have tails (tail : List (List Char)) :
      (∀ d ∈ tail.flatMap capitalize, isIdentifierPart d = true) ↔
        ∀ w ∈ tail, ∀ d ∈ w, isIdentifierPart d = true := by
    simp only [List.mem_flatMap, forall_exists_index, and_imp]
    rw [forall_comm]
    exact forall_congr' fun w => by
      rw [forall_comm]
      exact forall_congr' fun mem => Text.isIdentifierPart_capitalize
  cases words with
  | nil => simp [joinCamel]
  | cons head tail =>
    rw [joinCamel, List.forall_mem_append, tails, List.forall_mem_cons]
    cases pascal
    · rfl
    · exact and_congr_left' Text.isIdentifierPart_capitalize

/-- A name in camel case is made of parts of names exactly if the text without its separators is. -/
theorem isIdentifierPart_camel (pascal : Bool) (cs : List Char) :
    (∀ d ∈ camel pascal cs, isIdentifierPart d = true) ↔
      ∀ c ∈ unseparated cs, isIdentifierPart c = true := by
  obtain ⟨parts, lowered, whole, -⟩ := exists_words cs
  rw [camel, isIdentifierPart_joinCamel, lowered, ← whole, List.forall_mem_map, List.forall_mem_flatten]
  exact forall₂_congr fun w _ => Text.isIdentifierPart_lowerAfter

/-- A text that is not empty is still not in lower case. -/
theorem toLower_ne_nil (some : cs ≠ []) : toLower cs ≠ [] := by
  intro none
  exact Text.capitalize_toLower_ne_nil some (by rw [none]; rfl)

/-- A name in camel case begins as names do exactly if the text without its separators does. -/
theorem head?_camel (cs : List Char) :
    (camel false cs).head?.map isIdentifierStart = (unseparated cs).head?.map isIdentifierStart := by
  obtain ⟨parts, lowered, whole, nonempty⟩ := exists_words cs
  rw [camel, lowered, ← whole]
  cases parts with
  | nil => rfl
  | cons head tail =>
    have some := nonempty head List.mem_cons_self
    rw [List.flatten_cons, List.head?_append_of_ne_nil head some, List.map_cons, joinCamel,
      if_neg Bool.false_ne_true, List.head?_append_of_ne_nil _ (toLower_ne_nil some), Text.head?_toLower]

/-- A name in camel case is empty exactly if its text is made of separators alone. -/
theorem camel_eq_nil_iff (pascal : Bool) (cs : List Char) :
    camel pascal cs = [] ↔ ∀ c ∈ cs, isSeparator c = true := by
  obtain ⟨parts, lowered, whole, nonempty⟩ := exists_words cs
  rw [← unseparated_eq_nil_iff, camel, lowered, ← whole]
  cases parts with
  | nil => simp [joinCamel]
  | cons head tail =>
    have some := nonempty head List.mem_cons_self
    cases pascal <;>
      simp [joinCamel, some, toLower_ne_nil some, Text.capitalize_toLower_ne_nil some]

/-- No name in camel case whose first letter is a capital begins with a small letter of the ASCII alphabet. -/
theorem isAsciiLower_of_head?_camel (mem : c ∈ (camel true cs).head?) : Text.isAsciiLower c = false := by
  obtain ⟨parts, lowered, -, nonempty⟩ := exists_words cs
  rw [camel, lowered] at mem
  cases parts with
  | nil => cases mem
  | cons head tail =>
    have some := Text.capitalize_toLower_ne_nil (nonempty head List.mem_cons_self)
    rw [List.map_cons, joinCamel, if_pos rfl, List.head?_append_of_ne_nil _ some] at mem
    exact Text.isAsciiLower_of_head?_capitalize mem

/-- A name in camel case is made as names are exactly if the text without its separators is. -/
theorem isIdentifierName_camel (cs : List Char) :
    isIdentifierName (String.ofList (camel false cs)) =
      isIdentifierName (String.ofList (unseparated cs)) := by
  rw [Bool.eq_iff_iff, isIdentifierName_iff, isIdentifierName_iff, head?_camel, isIdentifierPart_camel]

/-- Neither a blank nor the mark of a half of a pair is a letter. -/
theorem apart_of_letters : Text.areApart Text.blankRanges Text.identifierStartRanges = true ∧
    Text.isLetterLike Text.mark = false := by
  decide +kernel

/-- No letter stands between words. -/
theorem isSeparator_of_isLetterLike (other : c ≠ '_') (letter : Text.isLetterLike c = true) :
    isSeparator c = false := by
  have letters := Text.ascending_ranges.1
  have inside : Text.Within Text.identifierStartRanges c := by
    simpa [Text.isLetterLike, other, Text.inRanges_iff_within letters] using letter
  -- Letters and blanks are in ranges that have nothing in common.
  have solid : Text.isBlank c = false := Bool.eq_false_iff.mpr fun blank => by
    have blanks : Text.Within Text.blankRanges c := (Text.inRanges_iff_within (by decide)).mp blank
    exact Text.not_within_of_areApart (by decide) letters apart_of_letters.1 blanks inside
  have marks : c ≠ '.' ∧ c ≠ '-' := by
    constructor <;>
    · rintro rfl
      revert letter
      decide
  simp [isSeparator, other, marks, solid]

/-- A hyphenated text is made of hyphens and parts of names. -/
theorem of_mem_hyphenated (mem : c ∈ hyphenated cs) : c = '-' ∨ isIdentifierPart c = true := by
  simp only [hyphenated, legalized, List.map_map, List.mem_map, Function.comp_apply] at mem
  obtain ⟨code, -, rfl⟩ := mem
  grind

/-- A hyphenated text begins with the first letter of its text, and there is nothing of it without one. -/
theorem hyphenated_cases (cs : List Char) :
    (¬ HasLetter cs ∧ hyphenated cs = []) ∨
      HasLetter cs ∧ ∃ c rest, hyphenated cs = c :: rest ∧ c ≠ '_' ∧ Text.isLetterLike c = true := by
  rw [hyphenated]
  cases fromLetter : cs.dropWhile fun c => !(c != '_' && Text.isLetterLike c) with
  | nil =>
    refine .inl ⟨?_, rfl⟩
    rintro ⟨c, mem, other, letter⟩
    have passed := List.dropWhile_eq_nil_iff.mp fromLetter c mem
    simp [other, letter] at passed
  | cons c rest =>
    have first := List.head?_dropWhile_not (fun c => !(c != '_' && Text.isLetterLike c)) cs
    simp only [fromLetter, List.head?_cons, Bool.not_eq_eq_eq_not, Bool.and_eq_true,
      bne_iff_ne, Bool.not_false] at first
    obtain ⟨other, letter⟩ := first
    have mem : c ∈ cs := (List.dropWhile_sublist _).subset (fromLetter ▸ List.mem_cons_self)
    -- A letter is no mark, so it is a code of its own, and it stays as it is.
    have unmarked : c ≠ Text.mark := by
      rintro rfl
      cases apart_of_letters.2.symm.trans letter
    have noDollar : c ≠ '$' := by
      rintro rfl
      revert letter
      decide
    have part : isIdentifierPart c = true :=
      Text.isIdentifierPart_of_isIdentifierStart (by simp [isIdentifierStart, letter])
    refine .inr ⟨⟨c, mem, other, letter⟩, c, ?_⟩
    simp [legalized, Text.codes_cons unmarked, part, noDollar, other, letter]

/-- The hyphenated form of a text in camel case is made as names are exactly if the text has a letter. -/
theorem isIdentifierName_camel_hyphenated (cs : List Char) :
    isIdentifierName (String.ofList (camel false (hyphenated cs))) = true ↔ HasLetter cs := by
  rw [isIdentifierName_camel, isIdentifierName_iff]
  obtain ⟨without, none⟩ | ⟨letter, c, rest, begins, other, first⟩ := hyphenated_cases cs
  · simp [without, none, unseparated]
  · have solid := isSeparator_of_isLetterLike other first
    refine iff_of_true ⟨?_, fun d mem => ?_⟩ letter
    · simp [begins, unseparated, solid, isIdentifierStart, first]
    · -- The hyphens are separators, and everything else is part of a name.
      obtain ⟨inside, kept⟩ := List.mem_filter.mp mem
      refine (of_mem_hyphenated inside).resolve_left ?_
      rintro rfl
      simp [isSeparator] at kept

/-- Words without humps inside are told by humps as they are shown. -/
theorem humped_shown (some : ∀ w ∈ words, w ≠ [])
    (smooth : ∀ w ∈ words, w.IsChain fun a b => isHump a b = false) : Humped (shown words) := by
  induction words with
  | nil => exact ⟨by simp [shown], by simp [shown], .nil⟩
  | cons w rest ih =>
    obtain ⟨first, others⟩ := List.forall_mem_cons.mp some
    obtain ⟨smoothFirst, smoothOthers⟩ := List.forall_mem_cons.mp smooth
    have single : Humped [w] := ⟨by simpa using first, by simpa using smoothFirst, .singleton _⟩
    exact single.joinSeam (ih others smoothOthers)

/-- Words make the same text as they are and as they are shown. -/
theorem flatten_shown (words : List (List Char)) : (shown words).flatten = words.flatten := by
  induction words with
  | nil => rfl
  | cons w rest ih => simp [shown, flatten_joinSeam, ih]

/-- A name in camel case is made of the words that it shows, each of which begins with a hump. -/
theorem camel_eq_flatten (cs : List Char) :
    camel false cs = (shownWords cs).flatten ∧ Humped (shownWords cs) := by
  obtain ⟨parts, lowered, -, nonempty⟩ := exists_words cs
  rw [camel, shownWords, lowered]
  cases parts with
  | nil =>
    have none : Humped (shown []) := humped_shown (by simp) (by simp)
    exact ⟨rfl, none⟩
  | cons head tail =>
    obtain ⟨some, others⟩ := List.forall_mem_cons.mp nonempty
    refine ⟨by simp [joinCamel, flatten_shown, List.flatMap_def], humped_shown ?_ ?_⟩
    · refine List.forall_mem_cons.mpr ⟨toLower_ne_nil some, ?_⟩
      simp only [List.map_map, List.forall_mem_map]
      exact fun w mem => Text.capitalize_toLower_ne_nil (others w mem)
    · refine List.forall_mem_cons.mpr ⟨?_, List.forall_mem_map.mpr fun w _ => Text.isChain_capitalize w⟩
      -- There is no capital of the ASCII alphabet in the first word.
      refine (List.pairwise_of_forall_mem_list fun a _ b mem => ?_).isChain
      simp [isHump, Text.isAsciiUpper_of_mem_lowerAfter mem]

/-- Two names in camel case are the same exactly if they show the same words. -/
theorem camel_inj {a b : List Char} : camel false a = camel false b ↔ shownWords a = shownWords b := by
  obtain ⟨first, humped⟩ := camel_eq_flatten a
  obtain ⟨second, other⟩ := camel_eq_flatten b
  rw [first, second, humped.flatten_inj other]

/-- A text behind one that is not empty goes on with a name if that is one, and if it is made of parts of names. -/
theorem isIdentifierName_append {a b : String} (some : a ≠ "") :
    isIdentifierName (a ++ b) = true ↔
      isIdentifierName a = true ∧ ∀ c ∈ b.toList, isIdentifierPart c = true := by
  have nonempty : a.toList ≠ [] := mt String.toList_eq_nil_iff.mp some
  rw [← String.ofList_toList (s := a ++ b), ← String.ofList_toList (s := a), isIdentifierName_iff,
    isIdentifierName_iff, String.ofList_toList, String.toList_append, List.head?_append_of_ne_nil _ nonempty,
    List.forall_mem_append, and_assoc]

/-- Reserved words are names, made of small letters of the ASCII alphabet. -/
theorem facts_of_reservedWords : ∀ word ∈ reservedWords,
    isIdentifierName word = true ∧ word.toList.all Text.isAsciiLower = true := by
  decide +kernel

/-- A name with a character that is no small letter of the ASCII alphabet is no reserved word. -/
theorem not_mem_reservedWords {name : String} (mem : c ∈ name.toList) (other : Text.isAsciiLower c = false) :
    name ∉ reservedWords := by
  intro reserved
  cases other.symm.trans (List.all_eq_true.mp (facts_of_reservedWords name reserved).2 c mem)

/-- A name with a key behind it is legal exactly if it is one but for reserved words, and the key has nothing that has
no place in one. -/
theorem isLegalName_append_pascalCase {owner : String} (some : owner ≠ "") (key : String) :
    IsLegalName (owner ++ pascalCase key) ↔ isIdentifierName owner = true ∧
      (∀ c ∈ key.toList, isSeparator c = true ∨ isIdentifierPart c = true) ∧
      ((∀ c ∈ key.toList, isSeparator c = true) → owner ∉ reservedWords) := by
  have suffix : (pascalCase key).toList = camel true key.toList := String.toList_ofList
  have identifier : isIdentifierName (owner ++ pascalCase key) = true ↔ isIdentifierName owner = true ∧
      ∀ c ∈ key.toList, isSeparator c = true ∨ isIdentifierPart c = true := by
    rw [isIdentifierName_append some, suffix, isIdentifierPart_camel, forall_mem_unseparated]
  have free : owner ++ pascalCase key ∉ reservedWords ↔
      ((∀ c ∈ key.toList, isSeparator c = true) → owner ∉ reservedWords) := by
    by_cases bare : ∀ c ∈ key.toList, isSeparator c = true
    · -- Nothing stands behind the owner.
      have empty : pascalCase key = "" :=
        String.toList_eq_nil_iff.mp (suffix.trans ((camel_eq_nil_iff true _).mpr bare))
      rw [empty, String.append_empty]
      exact ⟨fun free _ => free, fun free => free bare⟩
    · -- What stands behind the owner begins with no small letter, so no reserved word comes of it.
      obtain ⟨c, rest, begins⟩ := List.exists_cons_of_ne_nil (mt (camel_eq_nil_iff true _).mp bare)
      refine iff_of_true (not_mem_reservedWords (c := c) (by simp [suffix, begins]) ?_) fun all => absurd all bare
      have head : c ∈ (camel true key.toList).head? := by simp [begins]
      exact isAsciiLower_of_head?_camel head
  rw [← free, ← and_assoc, ← identifier]
  exact ⟨fun ⟨legal, free⟩ => ⟨legal, free⟩, fun ⟨legal, free⟩ => ⟨legal, free⟩⟩

/-- An underscore is put behind a reserved word, which makes it none. -/
theorem isLegalName_escapeReserved_iff {name : String} :
    IsLegalName (escapeReserved name) ↔ isIdentifierName name = true := by
  rw [escapeReserved]
  split
  · next reserved =>
    have legal := (facts_of_reservedWords name (List.contains_iff_mem.mp reserved)).1
    have some : name ≠ "" := by
      rintro rfl
      cases legal
    -- The underscore is a part of names, and no reserved word ends in one.
    have escaped : isIdentifierName (name ++ "_") = true :=
      (isIdentifierName_append some).mpr ⟨legal, List.all_eq_true.mp (by decide)⟩
    exact iff_of_true ⟨escaped, not_mem_reservedWords (c := '_') (by simp) (by decide)⟩ legal
  · next other =>
    exact ⟨IsLegalName.identifier, fun legal => ⟨legal, fun mem => other (List.contains_iff_mem.mpr mem)⟩⟩

/-- What is made legal holds nothing that an identifier may not hold. -/
theorem isIdentifierPart_of_mem_legalized (mem : c ∈ legalized '_' cs) : isIdentifierPart c = true := by
  obtain ⟨code, -, rfl⟩ := List.mem_map.mp mem
  split
  · assumption
  · rfl

/-- A text is made to begin as an identifier does, unless it is empty. -/
theorem startable_facts (parts : ∀ c ∈ cs, isIdentifierPart c = true) :
    (∀ c ∈ startable cs, isIdentifierPart c = true) ∧
      (startable cs ≠ [] → (startable cs).head?.map isIdentifierStart = some true) := by
  cases cs with
  | nil => simp [startable]
  | cons c rest =>
    rw [startable]
    split
    · next start => exact ⟨parts, fun _ => by simp [start]⟩
    · exact ⟨List.forall_mem_cons.mpr ⟨rfl, parts⟩, fun _ => rfl⟩

/-- Of a run of underscores one is left, and the text begins as it did. -/
theorem collapsed_facts (cs : List Char) : collapsed cs ⊆ cs ∧ (collapsed cs).head? = cs.head? := by
  fun_induction collapsed cs with
  | case1 => simp
  | case2 c rest run ih =>
    obtain ⟨inside, head⟩ := ih
    refine ⟨List.subset_cons_of_subset c inside, ?_⟩
    simp only [Bool.and_eq_true, beq_iff_eq] at run
    rw [head, run.1, run.2, List.head?_cons]
  | case3 c rest other ih => exact ⟨List.cons_subset_cons c ih.1, rfl⟩

/-- Whatever a name is made of, its identifier is one. -/
theorem isIdentifierName_sanitizeIdentifier (raw : String) : isIdentifierName (sanitizeIdentifier raw) = true := by
  rw [sanitizeIdentifier, identifier]
  have legal : ∀ c ∈ legalized '_' (Text.trim raw.toList), isIdentifierPart c = true := fun c =>
    isIdentifierPart_of_mem_legalized
  obtain ⟨parts, start⟩ := startable_facts legal
  obtain ⟨inside, head⟩ := collapsed_facts (startable (legalized '_' (Text.trim raw.toList)))
  generalize startable (legalized '_' (Text.trim raw.toList)) = name at *
  split
  · decide +kernel
  · next some =>
    refine isIdentifierName_iff.mpr ⟨?_, fun c mem => parts c (inside mem)⟩
    -- Collapsing keeps the first character, with which a name may begin.
    rw [head]
    refine start fun none => some ?_
    simp [none, collapsed]

/-- Whatever a name is made of, its identifier is legal with reserved words escaped. -/
theorem isLegalName_escapeReserved_sanitizeIdentifier (raw : String) :
    IsLegalName (escapeReserved (sanitizeIdentifier raw)) :=
  isLegalName_escapeReserved_iff.mpr (isIdentifierName_sanitizeIdentifier raw)

/-- Names without underscores are the same if they are with reserved words escaped. -/
theorem escapeReserved_inj {a b : String} (noneA : '_' ∉ a.toList) (noneB : '_' ∉ b.toList) :
    escapeReserved a = escapeReserved b ↔ a = b := by
  refine ⟨fun same => ?_, congrArg escapeReserved⟩
  rw [escapeReserved, escapeReserved] at same
  split at same <;> split at same
  · simpa using same
  · exact absurd (by simp [← same]) noneB
  · exact absurd (by simp [same]) noneA
  · exact same

end TypedClient.Name
