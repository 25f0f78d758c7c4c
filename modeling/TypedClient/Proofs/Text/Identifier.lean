import TypedClient.Proofs.Text.Case
import TypedClient.Proofs.Text.Digit
import TypedClient.Text.Half

/-! The changes of case keep the characters of identifiers, and make none of others. -/

namespace TypedClient.Text

/-- Whether all code points from `first` to `last` in steps of `stride` lie in ranges. -/
def spansAll (ranges : List (Nat × Nat)) (first last stride : Nat) : Bool :=
  -- Mostly all of them do, with those between the steps, and then the steps are not gone through.
  window ranges first last == 1 <<< (last + 1 - first) - 1 ||
    (List.range ((last - first) / stride + 1)).all fun step => (bitsOf ranges).testBit (first + stride * step)

/-- The characters that begin an identifier. -/
def startRanges : List (Nat × Nat) :=
  (0x24, 0x24) :: (0x5f, 0x5f) :: identifierStartRanges

/-- The characters that go on with an identifier. -/
def partRanges : List (Nat × Nat) :=
  (0x200c, 0x200d) :: startRanges ++ identifierExtraRanges

/-- Whether a code point is that of a letter or a mark in an identifier. -/
def isPartCode (code : Nat) : Bool :=
  (bitsOf identifierStartRanges).testBit code || (bitsOf identifierExtraRanges).testBit code

/-- The sequences that are the forms of characters, and these characters, are made of letters and marks; the first of
each sequence is a letter, and no small one of the ASCII alphabet at the head of a word. -/
theorem letters_of_expansions :
    ((headExpansions ++ upperExpansions).all fun entry => isPartCode entry.1 && entry.2.all isPartCode) = true ∧
      (upperExpansions.all fun entry => entry.2.head?.all (bitsOf identifierStartRanges).testBit) = true ∧
      (titleExpansions.all fun entry => entry.2.head?.all fun code => !isAsciiLower (Char.ofNat code)) = true ∧
      -- The sigma and the dotted capital I have forms that stand in no table.
      ['Σ', 'σ', 'ς', 'İ', 'i'].all isIdentifierStart = true ∧ isIdentifierPart '\u0307' = true := by
  decide +kernel

/-- The ranges of what goes on with an identifier have only code points of characters. -/
theorem valid_of_mem_partRanges {range : Nat × Nat} (mem : range ∈ partRanges) :
    0 < range.1 ∧ (range.2 < 0xd800 ∨ 0xe000 ≤ range.1) ∧ range.2 < 0x110000 := by
  have each : ∀ range ∈ partRanges,
      0 < range.1 ∧ (range.2 < 0xd800 ∨ 0xe000 ≤ range.1) ∧ range.2 < 0x110000 := by decide +kernel
  exact each range mem

/-- A table only moves what is a letter or one of the given marks, and makes a letter of it, apart from what has no
place in an identifier before and after. -/
class KeepsLetters (marks : outParam (List (Nat × Nat))) (table : List Shift) : Prop where
  each : (table.all fun shift =>
    let last := shift.target + (shift.last - shift.first)
    spansAll identifierStartRanges shift.target last shift.stride
        && (spansAll identifierStartRanges shift.first shift.last shift.stride
          || spansAll marks shift.first shift.last shift.stride)
      || spansNone partRanges shift.first shift.last && spansNone partRanges shift.target last) = true
  /-- The marks go on with an identifier. -/
  parts : (marks.all fun range => spansAll partRanges range.1 range.2 1) = true

instance : KeepsLetters [] lowerShifts := ⟨by decide +kernel, by decide +kernel⟩

instance : KeepsLetters [] titleShifts := ⟨by decide +kernel, by decide +kernel⟩

/-- The iota below a letter is the one mark that becomes a letter in upper case. -/
instance : KeepsLetters [(0x345, 0x345)] upperShifts := ⟨by decide +kernel, by decide +kernel⟩

variable {ranges marks : List (Nat × Nat)} {table : List Shift} {c d : Char} {before after cs : List Char}

/-- Each of the code points in steps that ranges are found to have lies in one of them. -/
theorem exists_range_of_spansAll {first last stride code : Nat}
    (all : spansAll ranges first last stride = true) (above : first ≤ code) (below : code ≤ last)
    (onStep : (code - first) % stride = 0) : ∃ range ∈ ranges, range.1 ≤ code ∧ code ≤ range.2 := by
  rw [← testBit_bitsOf]
  rcases Bool.or_eq_true_iff.mp all with full | each
  · rw [← testBit_window above below, beq_iff_eq.mp full, Nat.one_shiftLeft, Nat.testBit_two_pow_sub_one, decide_eq_true_iff]
    omega
  · -- The code point is that of one of the steps.
    have reached : first + stride * ((code - first) / stride) = code := by
      have := Nat.div_add_mod (code - first) stride
      omega
    have listed : (code - first) / stride ∈ List.range ((last - first) / stride + 1) :=
      List.mem_range.mpr (Nat.lt_succ_of_le (Nat.div_le_div_right (by omega)))
    have found := List.all_eq_true.mp each _ listed
    rwa [reached] at found

/-- The letters are among what begins an identifier. -/
theorem letters_subset : identifierStartRanges ⊆ startRanges :=
  fun _ mem => List.mem_cons_of_mem _ (List.mem_cons_of_mem _ mem)

/-- What begins an identifier is among what goes on with one. -/
theorem startRanges_subset : startRanges ⊆ partRanges :=
  fun _ mem => List.mem_cons_of_mem _ (List.mem_append_left _ mem)

/-- A character in some ranges lies in all ranges that these are among. -/
theorem Within.of_subset {others : List (Nat × Nat)} (inside : Within ranges c)
    (subset : ranges ⊆ others) : Within others c := by
  obtain ⟨range, mem, held⟩ := inside
  exact ⟨range, subset mem, held⟩

/-- The character of a code point lies in those ranges of parts of identifiers that the code point does. -/
theorem within_ofNat {code : Nat} (known : ranges ⊆ partRanges)
    (inside : ∃ range ∈ ranges, range.1 ≤ code ∧ code ≤ range.2) : Within ranges (Char.ofNat code) := by
  obtain ⟨range, mem, start, stop⟩ := inside
  obtain ⟨-, whole, small⟩ := valid_of_mem_partRanges (known mem)
  have noHalf : isHalf code = false := by
    simp only [isHalf, Bool.and_eq_false_iff, decide_eq_false_iff_not]
    omega
  have back := toNat_ofNat (by omega) noHalf
  exact ⟨range, mem, by omega, by omega⟩

/-- What lies in two rows of ranges lies in one of them. -/
theorem within_append {more : List (Nat × Nat)} :
    Within (ranges ++ more) c ↔ Within ranges c ∨ Within more c := by
  simp only [Within, List.mem_append, or_and_right, exists_or]

/-- What lies in a range and further ones lies in the range or in one of the others. -/
theorem within_cons {range : Nat × Nat} :
    Within (range :: ranges) c ↔ (range.1 ≤ c.toNat ∧ c.toNat ≤ range.2) ∨ Within ranges c := by
  simp only [Within, List.exists_mem_cons_iff]

/-- A character is another one exactly if its code is neither less nor greater. -/
theorem eq_iff_between : c = d ↔ d.toNat ≤ c.toNat ∧ c.toNat ≤ d.toNat := by
  rw [← Char.toNat_inj]
  omega

/-- A character begins an identifier exactly if it lies in the ranges of those that do. -/
theorem isIdentifierStart_iff_within : isIdentifierStart c = true ↔ Within startRanges c := by
  have letters : inRanges c.toNat identifierStartRanges = true ↔ Within identifierStartRanges c :=
    inRanges_iff_within ascending_ranges.1
  have dollar : c = '$' ↔ 0x24 ≤ c.toNat ∧ c.toNat ≤ 0x24 := eq_iff_between
  have underscore : c = '_' ↔ 0x5f ≤ c.toNat ∧ c.toNat ≤ 0x5f := eq_iff_between
  simp only [isIdentifierStart, isLetterLike, Bool.or_eq_true, beq_iff_eq, startRanges, within_cons,
    letters, dollar, underscore]

/-- A character goes on with an identifier exactly if it lies in the ranges of those that do. -/
theorem isIdentifierPart_iff_within : isIdentifierPart c = true ↔ Within partRanges c := by
  have extra : inRanges c.toNat identifierExtraRanges = true ↔ Within identifierExtraRanges c :=
    inRanges_iff_within ascending_ranges.2.1
  have start := isIdentifierStart_iff_within (c := c)
  -- The two joiners lie next to each other, so they make one range.
  have joiners : (c = '\u200c' ∨ c = '\u200d') ↔ 0x200c ≤ c.toNat ∧ c.toNat ≤ 0x200d := by
    have first : c = '\u200c' ↔ 0x200c ≤ c.toNat ∧ c.toNat ≤ 0x200c := eq_iff_between
    have second : c = '\u200d' ↔ 0x200d ≤ c.toNat ∧ c.toNat ≤ 0x200d := eq_iff_between
    rw [first, second]
    omega
  simp only [isIdentifierStart, Bool.or_eq_true, beq_iff_eq] at start
  simp only [isIdentifierPart, isWordLike, Bool.or_eq_true, beq_iff_eq, partRanges, List.cons_append,
    within_cons, within_append, ← start, extra, ← joiners]
  simp only [or_assoc, or_left_comm]

/-- Whatever begins an identifier also goes on with one. -/
theorem isIdentifierPart_of_isIdentifierStart (start : isIdentifierStart c = true) :
    isIdentifierPart c = true := by
  rw [isIdentifierStart_iff_within] at start
  exact isIdentifierPart_iff_within.mpr (start.of_subset startRanges_subset)

/-- The character of a code point that is that of a letter begins an identifier. -/
theorem isIdentifierStart_of_testBit {code : Nat}
    (letter : (bitsOf identifierStartRanges).testBit code = true) : isIdentifierStart (Char.ofNat code) = true := by
  have inside := within_ofNat (List.Subset.trans letters_subset startRanges_subset) (testBit_bitsOf.mp letter)
  exact isIdentifierStart_iff_within.mpr (inside.of_subset letters_subset)

/-- The character of a code point that is that of a letter or a mark goes on with an identifier. -/
theorem isIdentifierPart_of_isPartCode {code : Nat} (part : isPartCode code = true) :
    isIdentifierPart (Char.ofNat code) = true := by
  rcases Bool.or_eq_true_iff.mp part with letter | extra
  · exact isIdentifierPart_of_isIdentifierStart (isIdentifierStart_of_testBit letter)
  · refine isIdentifierPart_iff_within.mpr (within_ofNat (List.Subset.refl _) ?_)
    obtain ⟨range, mem, inside⟩ := testBit_bitsOf.mp extra
    exact ⟨range, List.mem_cons_of_mem _ (List.mem_append_right _ mem), inside⟩

/-- A table that keeps letters leaves a character alone, makes a letter of a letter or a mark, or leaves
something out of identifiers that had no place there. -/
theorem shifted_cases_of_marks (table : List Shift) [keeps : KeepsLetters marks table] (c : Char) :
    shifted table c = c ∨
      (isIdentifierStart (shifted table c) = true ∧ (isIdentifierStart c = true ∨ Within marks c)) ∨
      (isIdentifierPart (shifted table c) = false ∧ isIdentifierPart c = false) := by
  obtain ⟨-, same⟩ | ⟨shift, mem, moves, same⟩ := shifted_cases table c
  · exact .inl same
  · simp only [Shift.moves, Bool.and_eq_true, decide_eq_true_eq, beq_iff_eq] at moves
    obtain ⟨⟨above, below⟩, onStep⟩ := moves
    have reached : shift.target ≤ shift.target + (c.toNat - shift.first) := Nat.le_add_right _ _
    have onTarget : (shift.target + (c.toNat - shift.first) - shift.target) % shift.stride = 0 := by
      rwa [Nat.add_sub_cancel_left]
    -- One of two things is checked for each shift: letters come of it, or neither side belongs to identifiers.
    have kept := List.all_eq_true.mp keeps.each shift mem
    simp only [Bool.or_eq_true, Bool.and_eq_true] at kept
    simp only [same, ← Bool.not_eq_true, isIdentifierStart_iff_within, isIdentifierPart_iff_within]
    obtain ⟨target, source⟩ | ⟨source, target⟩ := kept
    · have letter := within_ofNat (List.Subset.trans letters_subset startRanges_subset)
        (exists_range_of_spansAll target reached (by omega) onTarget)
      refine .inr (.inl ⟨letter.of_subset letters_subset, source.imp (fun all => ?_) fun all => ?_⟩)
      · exact Within.of_subset (exists_range_of_spansAll all above below onStep) letters_subset
      · exact exists_range_of_spansAll all above below onStep
    · have outside := not_within_ofNat (fun range mem => (valid_of_mem_partRanges mem).1) target reached
        (by omega)
      exact .inr (.inr ⟨outside, not_within_of_spansNone source above below⟩)

/-- A table that keeps letters keeps what goes on with an identifier, and makes nothing else so. -/
theorem isIdentifierPart_shifted [keeps : KeepsLetters marks table] :
    isIdentifierPart (shifted table c) = isIdentifierPart c := by
  obtain same | ⟨letter, source⟩ | ⟨none, source⟩ := shifted_cases_of_marks table c
  · rw [same]
  · have mark (inside : Within marks c) : isIdentifierPart c = true := by
      obtain ⟨range, mem, above, below⟩ := inside
      exact isIdentifierPart_iff_within.mpr
        (exists_range_of_spansAll (List.all_eq_true.mp keeps.parts range mem) above below (Nat.mod_one _))
    rw [isIdentifierPart_of_isIdentifierStart letter]
    exact (source.elim isIdentifierPart_of_isIdentifierStart mark).symm
  · rw [none, source]

/-- A table that only keeps letters, and makes none of marks, keeps what begins an identifier. -/
theorem isIdentifierStart_shifted [KeepsLetters [] table] :
    isIdentifierStart (shifted table c) = isIdentifierStart c := by
  obtain same | ⟨letter, source⟩ | ⟨none, source⟩ := shifted_cases_of_marks table c
  · rw [same]
  · have start : isIdentifierStart c = true := source.resolve_right fun ⟨_, mem, _⟩ => by cases mem
    rw [letter, start]
  · have noStart {d : Char} (noPart : isIdentifierPart d = false) : isIdentifierStart d = false :=
      Bool.eq_false_iff.mpr fun start =>
        Bool.eq_false_iff.mp noPart (isIdentifierPart_of_isIdentifierStart start)
    rw [noStart none, noStart source]

/-- A lower-case form goes on with an identifier exactly if its character does. -/
theorem isIdentifierPart_lowerBetween :
    (∀ d ∈ lowerBetween before after c, isIdentifierPart d = true) ↔ isIdentifierPart c = true := by
  obtain ⟨-, -, -, letters, dot⟩ := letters_of_expansions
  have parts : ∀ c ∈ ['Σ', 'σ', 'ς', 'İ', 'i'], isIdentifierPart c = true :=
    fun c mem => isIdentifierPart_of_isIdentifierStart (List.all_eq_true.mp letters c mem)
  rw [lowerBetween, lowerOf]
  -- The sigma and the dotted capital have rules of their own; all others are shifted by the table.
  split
  · next sigma =>
    obtain rfl := beq_iff_eq.mp sigma
    split <;> simp [parts]
  · split
    · next dotted =>
      obtain rfl := beq_iff_eq.mp dotted
      simp [parts, dot]
    · rw [List.forall_mem_singleton, isIdentifierPart_shifted]

/-- A lower-case form begins as an identifier does exactly if its character does. -/
theorem head?_lowerBetween :
    (lowerBetween before after c).head?.map isIdentifierStart = some (isIdentifierStart c) := by
  obtain ⟨-, -, -, letters, -⟩ := letters_of_expansions
  rw [List.all_eq_true] at letters
  rw [lowerBetween, lowerOf]
  split
  · next sigma =>
    obtain rfl := beq_iff_eq.mp sigma
    split <;> simp [letters]
  · split
    · next dotted =>
      obtain rfl := beq_iff_eq.mp dotted
      simp [letters]
    · simp [isIdentifierStart_shifted]

/-- A form at the head of a word goes on with an identifier exactly if its character does. -/
theorem isIdentifierPart_titleOf :
    (∀ d ∈ titleOf c, isIdentifierPart d = true) ↔ isIdentifierPart c = true := by
  obtain ⟨codes, listed, form⟩ | form | form := titleOf_cases c <;> rw [form]
  · obtain ⟨own, others⟩ := Bool.and_eq_true_iff.mp
      (List.all_eq_true.mp letters_of_expansions.1 _ (List.mem_append_left _ listed))
    have part := isIdentifierPart_of_isPartCode own
    rw [Char.ofNat_toNat] at part
    exact iff_of_true (List.forall_mem_map.mpr fun code mem =>
      isIdentifierPart_of_isPartCode (List.all_eq_true.mp others code mem)) part
  · rw [List.forall_mem_singleton, isIdentifierPart_shifted]
  · rw [List.forall_mem_singleton, isIdentifierPart_shifted]

/-- No form at the head of a word begins with a small letter of the ASCII alphabet. -/
theorem isAsciiLower_of_head?_titleOf (mem : d ∈ (titleOf c).head?) : isAsciiLower d = false := by
  rw [titleOf] at mem
  -- A form of several characters is looked up; else the character is shifted, or put in upper case.
  split at mem
  · next found =>
    obtain ⟨codes, listed, rfl⟩ := mem_of_expansion? found
    rw [List.head?_map] at mem
    obtain ⟨code, first, rfl⟩ := Option.map_eq_some_iff.mp mem
    have large := (Option.all_eq_true _ _).mp (List.all_eq_true.mp letters_of_expansions.2.2.1 _ listed) code first
    simpa using large
  · split at mem
    · next moved =>
      have outside : ¬ Within smallRange (shifted titleShifts c) := by
        refine not_within_shifted (by decide) (by decide) fun uncovered => ?_
        cases moved.symm.trans uncovered
      rw [← Option.some.inj mem]
      simpa [within_smallRange] using outside
    · exact isAsciiLower_of_mem_upperOf (List.mem_of_mem_head? mem)

/-- The upper-case form of a character that goes on with an identifier does so too. -/
theorem isIdentifierPart_of_mem_upperOf (part : isIdentifierPart c = true) (mem : d ∈ upperOf c) :
    isIdentifierPart d = true := by
  rw [upperOf] at mem
  split at mem
  · next found =>
    obtain ⟨codes, listed, rfl⟩ := mem_of_expansion? found
    obtain ⟨code, inside, rfl⟩ := List.mem_map.mp mem
    obtain ⟨-, letters⟩ := Bool.and_eq_true_iff.mp
      (List.all_eq_true.mp letters_of_expansions.1 _ (List.mem_append_right _ listed))
    exact isIdentifierPart_of_isPartCode (List.all_eq_true.mp letters code inside)
  · rw [List.mem_singleton.mp mem, isIdentifierPart_shifted, part]

/-- The upper-case form of a character that begins an identifier does so too. -/
theorem isIdentifierStart_of_head?_upperOf (start : isIdentifierStart c = true)
    (mem : d ∈ (upperOf c).head?) : isIdentifierStart d = true := by
  rw [upperOf] at mem
  -- A form of several characters begins with a letter in the table; any other one is shifted.
  split at mem
  · next found =>
    obtain ⟨codes, listed, rfl⟩ := mem_of_expansion? found
    rw [List.head?_map] at mem
    obtain ⟨code, first, rfl⟩ := Option.map_eq_some_iff.mp mem
    have letter := List.all_eq_true.mp letters_of_expansions.2.1 _ listed
    exact isIdentifierStart_of_testBit ((Option.all_eq_true _ _).mp letter code first)
  · rw [← Option.some.inj mem]
    obtain same | ⟨letter, -⟩ | ⟨-, none⟩ := shifted_cases_of_marks upperShifts c
    · rwa [same]
    · exact letter
    · cases none.symm.trans (isIdentifierPart_of_isIdentifierStart start)

/-- A text in lower case is made of parts of identifiers exactly if the text itself is. -/
theorem isIdentifierPart_lowerAfter :
    (∀ d ∈ lowerAfter before cs, isIdentifierPart d = true) ↔ ∀ c ∈ cs, isIdentifierPart c = true := by
  induction cs generalizing before with
  | nil => simp [lowerAfter]
  | cons c rest ih =>
    rw [lowerAfter, List.forall_mem_append, isIdentifierPart_lowerBetween, ih, List.forall_mem_cons]

/-- A text in lower case begins as an identifier does exactly if the text itself does. -/
theorem head?_toLower : (toLower cs).head?.map isIdentifierStart = cs.head?.map isIdentifierStart := by
  cases cs with
  | nil => rfl
  | cons c rest =>
    have some : lowerBetween [] rest c ≠ [] := by
      intro none
      have head : (lowerBetween [] rest c).head?.map isIdentifierStart = some (isIdentifierStart c) :=
        head?_lowerBetween
      simp [none] at head
    rw [toLower, lowerAfter, List.head?_append_of_ne_nil _ some, head?_lowerBetween]
    rfl

/-- A capitalized text is made of parts of identifiers exactly if the text itself is. -/
theorem isIdentifierPart_capitalize :
    (∀ d ∈ capitalize cs, isIdentifierPart d = true) ↔ ∀ c ∈ cs, isIdentifierPart c = true := by
  cases cs with
  | nil => simp [capitalize]
  | cons c rest =>
    rw [capitalize, List.forall_mem_append, isIdentifierPart_titleOf, isIdentifierPart_lowerAfter,
      List.forall_mem_cons]

/-- No capitalized text begins with a small letter of the ASCII alphabet. -/
theorem isAsciiLower_of_head?_capitalize (mem : d ∈ (capitalize cs).head?) :
    isAsciiLower d = false := by
  cases cs with
  | nil => cases mem
  | cons c rest =>
    rw [capitalize, List.head?_append_of_ne_nil _ (titleOf_ne_nil c)] at mem
    exact isAsciiLower_of_head?_titleOf mem

end TypedClient.Text
