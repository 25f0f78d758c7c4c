import Mathlib.Data.List.SplitBy
import TypedClient.Name.CamelCase
import TypedClient.Proofs.Text.Blank
import TypedClient.Proofs.Text.Case

/-! The words of names in camel case, and how they can be told from a text that they are joined to. -/

namespace TypedClient.Name

open Text (isHump isWordChar isAsciiUpper isAsciiLower isDecimal capitalize wordsBy)

/-- A text without separators. -/
def IsJoined (cs : List Char) : Prop :=
  ∀ c ∈ cs, isSeparator c = false

/-- Whether the end of the first word and the beginning of the second one make a hump. -/
def meets (v w : List Char) : Bool :=
  match v.getLast?, w.head? with
  | some a, some b => isHump a b
  | _, _ => false

/-- Words that begin with a hump, apart from the first one, and have none inside. -/
structure Humped (words : List (List Char)) : Prop where
  nonempty : ∀ w ∈ words, w ≠ []
  smooth : ∀ w ∈ words, w.IsChain fun a b => isHump a b = false
  meets : words.IsChain fun v w => meets v w = true

/-- Two rows of words one after the other; where no hump shows the seam, the words beside it are one. -/
def joinSeam : List (List Char) → List (List Char) → List (List Char)
  | [], back => back
  | [last], first :: rest =>
    if meets last first then last :: first :: rest else (last ++ first) :: rest
  | word :: front, back => word :: joinSeam front back

/-- A separator between two characters follows a letter or a digit, and a capital follows it. -/
def Separates (a b : Char) : Prop :=
  (isSeparator b = true → isWordChar a = true) ∧ (isSeparator a = true → isAsciiUpper b = true)

/-- The characters that stand between words. -/
def separatorRanges : List (Nat × Nat) :=
  (0x2d, 0x2e) :: (0x5f, 0x5f) :: Text.blankRanges

variable {cs rest : List Char} {words front back : List (List Char)} {v w : List Char} {a b c : Char}

/-- A separator is what lies in the ranges of the separators. -/
theorem isSeparator_iff_within : isSeparator c = true ↔ Text.Within separatorRanges c := by
  have single (d : Char) : c = d ↔ d.toNat ≤ c.toNat ∧ c.toNat ≤ d.toNat := by
    rw [← Char.toNat_inj]
    omega
  have underscore := single '_'
  have dot := single '.'
  have hyphen := single '-'
  simp only [Text.Within, separatorRanges, List.exists_mem_cons_iff, isSeparator, Bool.or_eq_true,
    beq_iff_eq, Text.isBlank]
  rw [Text.inRanges_iff_within (by decide), Text.Within]
  rw [show ('_' : Char).toNat = 0x5f from rfl] at underscore
  rw [show ('.' : Char).toNat = 0x2e from rfl] at dot
  rw [show ('-' : Char).toNat = 0x2d from rfl] at hyphen
  -- The dot and the hyphen are next to each other.
  grind

/-- No letter and no digit stands between words. -/
theorem isSeparator_of_isWordChar (word : isWordChar c = true) : isSeparator c = false := by
  rcases Bool.or_eq_true_iff.mp word with letter | decimal
  · exact Text.of_codes (P := fun c => (isAsciiLower c || isAsciiUpper c) = true → isSeparator c = false)
      (by decide) (Text.lt_of_isAsciiLetter letter) letter
  · -- No range of digits has a separator in it.
    have apart : ∀ range ∈ Text.decimalRanges,
        Text.spansNone separatorRanges range.1 range.2 = true := by decide
    obtain ⟨range, mem, above, below⟩ := (Text.inRanges_iff_within (by decide)).mp decimal
    have outside := Text.not_within_of_spansNone (apart range mem) above below
    exact Bool.eq_false_iff.mpr (mt isSeparator_iff_within.mp outside)

/-- Two words meet exactly if the last character of the first and the first of the second make a hump. -/
theorem meets_iff : meets v w = true ↔
    ∃ a b, v.getLast? = some a ∧ w.head? = some b ∧ isHump a b = true := by
  rw [meets]
  cases v.getLast? <;> cases w.head? <;> simp

/-- Words that humps show can be told from the text that they make. -/
theorem Humped.splitBy_flatten (humped : Humped words) :
    words.flatten.splitBy (fun a b => !isHump a b) = words := by
  -- Between two words there is a hump, and inside of a word there is none.
  refine List.splitBy_flatten (fun mem => humped.nonempty [] mem rfl) ?_ ?_
  · intro w mem
    simpa using humped.smooth w mem
  · refine humped.meets.imp fun v w meets => ?_
    obtain ⟨a, b, last, head, hump⟩ := meets_iff.mp meets
    have some : v ≠ [] ∧ w ≠ [] := by
      constructor <;> rintro rfl
      · cases last
      · cases head
    refine ⟨some.1, some.2, ?_⟩
    rw [List.getLast_of_mem_getLast? last, (List.head_eq_iff_head?_eq_some some.2).mpr head, hump]
    rfl

/-- Two rows of words that humps show make the same text only if they are the same. -/
theorem Humped.flatten_inj (humped : Humped front) (other : Humped back) :
    front.flatten = back.flatten ↔ front = back := by
  refine ⟨fun same => ?_, congrArg List.flatten⟩
  -- The text is cut at its humps, which gives the words back.
  rw [← humped.splitBy_flatten, same, other.splitBy_flatten]

/-- A capital is no separator. -/
theorem isSeparator_of_isAsciiUpper (capital : isAsciiUpper c = true) : isSeparator c = false :=
  isSeparator_of_isWordChar (by simp [isWordChar, capital])

/-- A mark that is put between a letter or a digit and a capital separates them. -/
theorem isChain_mark (word : isWordChar a = true) (capital : isAsciiUpper b = true)
    (head : cs.head? = some b) (chain : cs.IsChain Separates) :
    (a :: '_' :: cs).IsChain Separates := by
  refine .cons_cons ⟨fun _ => word, ?_⟩ (List.isChain_cons.mpr ⟨?_, chain⟩)
  · simp [isSeparator_of_isWordChar word]
  · intro c mem
    obtain rfl : c = b := Option.some.inj (mem.symm.trans head)
    exact ⟨by simp [isSeparator_of_isAsciiUpper capital], fun _ => capital⟩

/-- A character in front of a text that has the same head separates what it did before. -/
theorem isChain_cons_of_head (chain : (a :: b :: rest).IsChain Separates) (head : cs.head? = some b)
    (kept : cs.IsChain Separates) : (a :: cs).IsChain Separates := by
  refine List.isChain_cons.mpr ⟨fun c mem => ?_, kept⟩
  obtain rfl : c = b := Option.some.inj (mem.symm.trans head)
  exact (List.isChain_cons_cons.mp chain).1

/-- Setting acronyms apart leaves the first character. -/
theorem head?_splitAcronyms (cs : List Char) : (splitAcronyms cs).head? = cs.head? := by
  fun_cases splitAcronyms cs <;> rfl

/-- Setting humps apart leaves the first character. -/
theorem head?_splitHumps (cs : List Char) : (splitHumps cs).head? = cs.head? := by
  fun_cases splitHumps cs <;> rfl

/-- The marks that set acronyms apart stand between letters and capitals. -/
theorem isChain_splitAcronyms (chain : cs.IsChain Separates) : (splitAcronyms cs).IsChain Separates := by
  -- Either a mark is put in, or a character stays in front of what it stood in front of.
  fun_induction splitAcronyms cs with
  | case1 a b c rest split ih =>
    simp only [Bool.and_eq_true] at split
    exact isChain_mark (by simp [isWordChar, split]) split.1.2 (head?_splitAcronyms _) (ih chain.tail)
  | case2 a b c rest _ ih =>
    exact isChain_cons_of_head chain (head?_splitAcronyms _) (ih chain.tail)
  | case3 => exact chain

/-- The marks that set humps apart stand between letters or digits and capitals. -/
theorem isChain_splitHumps (chain : cs.IsChain Separates) : (splitHumps cs).IsChain Separates := by
  fun_induction splitHumps cs with
  | case1 a b rest split ih =>
    simp only [Bool.and_eq_true, Bool.or_eq_true] at split
    exact isChain_mark (by simp [isWordChar]; tauto) split.2 (head?_splitHumps _) (ih chain.tail)
  | case2 a b rest _ ih =>
    exact isChain_cons_of_head chain (head?_splitHumps _) (ih chain.tail)
  | case3 => exact chain

/-- A text without separators is kept as a whole when it is trimmed. -/
theorem trim_of_isJoined (joined : IsJoined cs) : Text.trim cs = cs := by
  have solid : ∀ c ∈ cs, Text.isBlank c = false := fun c mem => by
    have separates := joined c mem
    simp only [isSeparator, Bool.or_eq_false_iff] at separates
    exact separates.2
  exact Text.trim_eq_self (fun c mem => solid c (List.mem_of_mem_head? mem))
    fun c mem => solid c (List.mem_of_getLast? mem)

/-- No word is empty, and no separator is in one. -/
theorem facts_of_mem_wordsBy (mem : w ∈ wordsBy isSeparator cs) : w ≠ [] ∧ IsJoined w := by
  -- A character is a word of its own if a separator or nothing follows, and else begins the next word.
  fun_induction wordsBy isSeparator cs generalizing w with
  | case1 => cases mem
  | case2 _ _ _ ih => exact ih mem
  | case3 c plain =>
    obtain rfl := List.mem_singleton.mp mem
    simpa [IsJoined] using plain
  | case4 c plain _ _ _ ih =>
    rcases List.mem_cons.mp mem with rfl | later
    · simpa [IsJoined] using plain
    · exact ih later
  | case5 c plain _ _ _ none =>
    rw [none] at mem
    obtain rfl := List.mem_singleton.mp mem
    simpa [IsJoined] using plain
  | case6 c plain _ _ _ word words found ih =>
    rw [found] at mem ih
    rcases List.mem_cons.mp mem with rfl | later
    · have joined := (ih List.mem_cons_self).2
      simpa [IsJoined, plain] using joined
    · exact ih (List.mem_cons_of_mem _ later)

/-- The first word begins with the first character that is no separator. -/
theorem head?_of_mem_wordsBy (mem : w ∈ (wordsBy isSeparator cs).head?) :
    w.head? = (cs.dropWhile isSeparator).head? := by
  fun_induction wordsBy isSeparator cs with
  | case1 => cases mem
  | case2 _ _ separator ih => simpa [separator] using ih mem
  | case3 c plain =>
    cases mem
    simp [plain]
  | case4 c plain =>
    cases mem
    simp [plain]
  | case5 c plain _ _ _ none =>
    rw [none] at mem
    cases mem
    simp [plain]
  | case6 c plain _ _ _ word words found =>
    rw [found] at mem
    cases mem
    simp [plain]

/-- What stands in front of a word makes no difference to what it meets. -/
theorem meets_append (cs : List Char) (some : v ≠ []) : meets (cs ++ v) w = meets v w := by
  rw [meets, meets, List.getLast?_append_of_ne_nil cs some]

/-- Words between separators meet in humps if a letter or a digit stands before each separator, and a
capital behind it. -/
theorem isChain_wordsBy (chain : cs.IsChain Separates) :
    (wordsBy isSeparator cs).IsChain fun v w => meets v w = true := by
  fun_induction wordsBy isSeparator cs with
  | case1 => exact .nil
  | case2 _ _ _ ih => exact ih chain.tail
  | case3 => exact .singleton _
  | case4 c _ next rest separator ih =>
    refine List.isChain_cons.mpr ⟨fun w mem => ?_, ih chain.tail⟩
    obtain ⟨⟨before, -⟩, chain⟩ := List.isChain_cons_cons.mp chain
    -- The next word begins right behind the separator.
    cases rest with
    | nil => simp [wordsBy, separator] at mem
    | cons d rest =>
      have capital := (List.isChain_cons_cons.mp chain).1.2 separator
      have head := head?_of_mem_wordsBy mem
      simp only [List.dropWhile_cons, separator, isSeparator_of_isAsciiUpper capital] at head
      exact meets_iff.mpr ⟨c, d, rfl, head, by simp [isHump, before separator, capital]⟩
  | case5 c _ _ _ _ none =>
    rw [none]
    exact .singleton _
  | case6 c _ _ _ _ word words found ih =>
    have chain := ih chain.tail
    have some := (facts_of_mem_wordsBy (found ▸ List.mem_cons_self)).1
    -- The word that the character is put in front of still ends as it did.
    rw [found] at chain ⊢
    refine List.isChain_cons.mpr ⟨fun w mem => ?_, chain.tail⟩
    rw [← List.singleton_append, meets_append [c] some]
    exact (List.isChain_cons.mp chain).1 w mem

/-- The words of a text without separators, capitalized, are told from each other by humps. -/
theorem humped_words (joined : IsJoined cs) : Humped ((Name.words cs).map capitalize) := by
  -- The only separators are the marks that are put where letters change their case.
  have plain : cs.IsChain Separates := by
    refine (List.pairwise_of_forall_mem_list fun a memA b memB => ?_).isChain
    exact ⟨by simp [joined b memB], by simp [joined a memA]⟩
  have chain := isChain_wordsBy (isChain_splitHumps (isChain_splitAcronyms plain))
  rw [Name.words, trim_of_isJoined joined, List.map_map]
  refine ⟨fun w mem => ?_, fun w mem => ?_, ?_⟩
  · obtain ⟨v, inside, rfl⟩ := List.mem_map.mp mem
    exact Text.capitalize_toLower_ne_nil (facts_of_mem_wordsBy inside).1
  · obtain ⟨v, -, rfl⟩ := List.mem_map.mp mem
    exact Text.isChain_capitalize _
  · -- Changing the case leaves a letter or a digit at the end, and the capital at the beginning.
    refine (List.isChain_map _).mpr (chain.imp fun v w held => ?_)
    obtain ⟨a, b, last, head, hump⟩ := meets_iff.mp held
    obtain ⟨word, capital⟩ := Bool.and_eq_true_iff.mp hump
    obtain ⟨d, lower, isWord⟩ := Text.getLast?_lowerAfter last word
    obtain ⟨e, title, isWord⟩ := Text.getLast?_capitalize lower isWord
    exact meets_iff.mpr ⟨e, b, title, Text.head?_capitalize_toLower head capital,
      Bool.and_eq_true_iff.mpr ⟨isWord, capital⟩⟩

/-- A row of words is told by humps if its first word is and the others are, and the two meet in one. -/
theorem humped_cons : Humped (w :: words) ↔
    w ≠ [] ∧ (w.IsChain fun a b => isHump a b = false) ∧ (∀ v ∈ words.head?, meets w v = true) ∧
      Humped words := by
  constructor
  · intro humped
    obtain ⟨first, chain⟩ := List.isChain_cons.mp humped.meets
    exact ⟨humped.nonempty w List.mem_cons_self, humped.smooth w List.mem_cons_self, first,
      fun v mem => humped.nonempty v (List.mem_cons_of_mem _ mem),
      fun v mem => humped.smooth v (List.mem_cons_of_mem _ mem), chain⟩
  · rintro ⟨some, smooth, first, humped⟩
    exact ⟨List.forall_mem_cons.mpr ⟨some, humped.nonempty⟩,
      List.forall_mem_cons.mpr ⟨smooth, humped.smooth⟩, List.isChain_cons.mpr ⟨first, humped.meets⟩⟩

/-- Two rows of words make the same text joined as one behind the other. -/
theorem flatten_joinSeam (front back : List (List Char)) :
    (joinSeam front back).flatten = front.flatten ++ back.flatten := by
  fun_induction joinSeam front back <;> simp_all

/-- The first word of two rows that are joined begins as that of the first row does. -/
theorem head?_of_mem_joinSeam (some : w ≠ []) (mem : v ∈ (joinSeam (w :: front) back).head?) :
    v.head? = w.head? := by
  cases front with
  | cons following front =>
    cases mem
    rfl
  | nil =>
    cases back with
    | nil =>
      cases mem
      rfl
    | cons next rest =>
      -- The first word is the last one of its row as well, so it may have got longer.
      rw [joinSeam] at mem
      split at mem <;> cases mem
      · rfl
      · rw [List.head?_append_of_ne_nil w some]

/-- Where two words do not meet in a hump, there is none when they are put together. -/
theorem isChain_append (first : v.IsChain fun a b => isHump a b = false)
    (second : w.IsChain fun a b => isHump a b = false) (apart : meets v w = false) :
    (v ++ w).IsChain fun a b => isHump a b = false := by
  refine List.isChain_append.mpr ⟨first, second, fun a last b head => ?_⟩
  by_contra hump
  refine Bool.eq_false_iff.mp apart (meets_iff.mpr ⟨a, b, last, head, ?_⟩)
  simpa using hump

/-- Two rows of words that are told by humps still are when they are joined. -/
theorem Humped.joinSeam (first : Humped front) (second : Humped back) :
    Humped (joinSeam front back) := by
  fun_induction Name.joinSeam front back with
  | case1 => exact second
  | case2 last next rest meet =>
    obtain ⟨some, smooth, -, -⟩ := humped_cons.mp first
    exact humped_cons.mpr ⟨some, smooth, by simpa using meet, second⟩
  | case3 last next rest apart =>
    obtain ⟨some, smooth, -, -⟩ := humped_cons.mp first
    obtain ⟨nextSome, nextSmooth, meets, humped⟩ := humped_cons.mp second
    -- The words beside the seam are one, which ends as the second of them does.
    refine humped_cons.mpr ⟨by simp [some], isChain_append smooth nextSmooth (by simpa using apart),
      fun v mem => ?_, humped⟩
    rw [meets_append last nextSome]
    exact meets v mem
  | case4 word front back other ih =>
    obtain ⟨some, smooth, meets, humped⟩ := humped_cons.mp first
    refine humped_cons.mpr ⟨some, smooth, fun v mem => ?_, ih humped second⟩
    cases front with
    | nil =>
      -- There is a word behind the last one only if the second row has some.
      cases back with
      | nil => simp [Name.joinSeam] at mem
      | cons next rest => exact (other next rest rfl rfl).elim
    | cons following front =>
      have begins := head?_of_mem_joinSeam (humped.nonempty following List.mem_cons_self) mem
      have met := meets following rfl
      rwa [Name.meets, begins]

/-- Lowering a text puts no separator into it. -/
theorem IsJoined.lowerAfter (joined : IsJoined cs) (before : List Char) :
    IsJoined (Text.lowerAfter before cs) := by
  intro d mem
  refine Bool.eq_false_iff.mpr (mt isSeparator_iff_within.mp ?_)
  refine Text.not_within_lowerAfter (by decide) (fun c inside _ => ?_) mem
  exact mt isSeparator_iff_within.mpr (Bool.eq_false_iff.mp (joined c inside))

/-- Capitalizing a text puts no separator into it. -/
theorem IsJoined.capitalize (joined : IsJoined cs) : IsJoined (Text.capitalize cs) := by
  intro d mem
  refine Bool.eq_false_iff.mpr (mt isSeparator_iff_within.mp ?_)
  refine Text.not_within_capitalize (by decide) (by decide) (fun c inside => ?_) mem
  exact mt isSeparator_iff_within.mpr (Bool.eq_false_iff.mp (joined c inside))

/-- A name in camel case has no separators. -/
theorem isJoined_camel (pascal : Bool) (cs : List Char) : IsJoined (camel pascal cs) := by
  have lower : ∀ w ∈ Name.words cs, IsJoined w := by
    intro w mem
    obtain ⟨v, inside, rfl⟩ := List.mem_map.mp mem
    exact (facts_of_mem_wordsBy inside).2.lowerAfter []
  rw [camel]
  -- All that is done with the words is to capitalize them.
  generalize Name.words cs = words at lower
  cases words with
  | nil => simp [joinCamel, IsJoined]
  | cons head tail =>
    obtain ⟨first, others⟩ := List.forall_mem_cons.mp lower
    refine List.forall_mem_append.mpr ⟨?_, fun c mem => ?_⟩
    · cases pascal
      · exact first
      · exact first.capitalize
    · obtain ⟨w, inside, mem⟩ := List.mem_flatMap.mp mem
      exact (others w inside).capitalize c mem

/-- A name in camel case whose first letter is a capital is that of its capitalized words. -/
theorem camel_true_eq_flatten (cs : List Char) :
    camel true cs = ((Name.words cs).map capitalize).flatten := by
  rw [camel, ← List.flatMap_def]
  cases Name.words cs <;> rfl

end TypedClient.Name
