import Mathlib.Data.List.Chain
import TypedClient.Text.Case
import TypedClient.Text.Digit

/-! Which characters the changes of case give, and which they leave alone. -/

namespace TypedClient.Text

/-- A letter of the ASCII alphabet, or a decimal digit of some script. -/
def isWordChar (c : Char) : Bool :=
  isAsciiLower c || isAsciiUpper c || isDecimal c

/-- The character lies in one of the ranges. -/
def Within (ranges : List (Nat × Nat)) (c : Char) : Prop :=
  ∃ range ∈ ranges, range.1 ≤ c.toNat ∧ c.toNat ≤ range.2

/-- The numbers that lie in ranges, as the bits of one number. -/
def bitsOf (ranges : List (Nat × Nat)) : Nat :=
  ranges.foldr (fun range bits => bits ||| (1 <<< (range.2 + 1 - range.1) - 1) <<< range.1) 0

/-- Those of the numbers from `first` to `last` that lie in ranges, as bits counted from the first. -/
def window (ranges : List (Nat × Nat)) (first last : Nat) : Nat :=
  (bitsOf ranges >>> first) % 1 <<< (last + 1 - first)

/-- Whether none of the code points from `first` to `last` lies in one of the ranges. -/
def spansNone (ranges : List (Nat × Nat)) (first last : Nat) : Bool :=
  window ranges first last == 0

/-- Whether a table moves nothing into one of the ranges. -/
def avoids (ranges : List (Nat × Nat)) (table : List Shift) : Bool :=
  table.all fun shift => spansNone ranges shift.target (shift.target + (shift.last - shift.first))

/-- Whether a table moves nothing that lies in one of the ranges. -/
def spares (ranges : List (Nat × Nat)) (table : List Shift) : Bool :=
  table.all fun shift => spansNone ranges shift.first shift.last

/-- Whether no lower-case form but that of a character in the ranges has one of them. -/
def avoidedByLower (ranges : List (Nat × Nat)) : Bool :=
  ranges.all (fun range => 0 < range.1) && avoids ranges lowerShifts
    -- The forms that stand in no table: those of the sigma and of the dotted capital I.
    && [0x3c2, 0x3c3, 0x69, 0x307].all fun code => spansNone ranges code code

/-- The characters whose form at the head of a word is a sequence, be it their upper-case form or not. -/
def headExpansions : List (Nat × List Nat) :=
  titleExpansions ++ upperExpansions.filter fun entry => titleExpansions.all fun other => other.1 != entry.1

/-- Whether no form at the head of a word but that of a character in the ranges has one of them. -/
def avoidedByTitle (ranges : List (Nat × Nat)) : Bool :=
  ranges.all (fun range => 0 < range.1) && avoids ranges upperShifts && avoids ranges titleShifts
    && headExpansions.all fun entry => entry.2.all fun code => spansNone ranges code code

variable {ranges : List (Nat × Nat)} {table : List Shift} {c d : Char} {before after cs : List Char}

/-- Ranges ascend if each of them does not begin before the one in front of it. -/
theorem ascending_of_isChain (chain : ranges.IsChain fun range later => range.1 ≤ later.1) :
    ranges.Pairwise fun range later => range.1 ≤ later.1 := by
  have : IsTrans (Nat × Nat) fun range later => range.1 ≤ later.1 := ⟨fun _ _ _ => Nat.le_trans⟩
  exact List.isChain_iff_pairwise.mp chain

/-- A code point is found in ascending ranges exactly if it lies in one of them. -/
theorem inRanges_iff_within (ascending : ranges.Pairwise fun range later => range.1 ≤ later.1) :
    inRanges c.toNat ranges = true ↔ Within ranges c := by
  induction ranges with
  | nil => simp [inRanges, Within]
  | cons range rest ih =>
    obtain ⟨first, ascending⟩ := List.pairwise_cons.mp ascending
    simp only [inRanges, Within, List.exists_mem_cons_iff, Bool.ite_eq_true_distrib]
    rw [Within] at ih
    split
    · next before =>
      -- All that is further on begins behind the code point as well.
      refine iff_of_false (by simp) ?_
      rintro (⟨above, -⟩ | ⟨later, mem, above, -⟩)
      · omega
      · have := first later mem
        omega
    · next reached =>
      rw [Bool.or_eq_true, ih ascending, decide_eq_true_eq]
      have above : range.1 ≤ c.toNat := by omega
      simp [above]

/-- The bits of ranges are the numbers that lie in one of them. -/
theorem testBit_bitsOf {code : Nat} :
    (bitsOf ranges).testBit code = true ↔ ∃ range ∈ ranges, range.1 ≤ code ∧ code ≤ range.2 := by
  induction ranges with
  | nil => simp [bitsOf]
  | cons range rest ih =>
    have own : ((1 <<< (range.2 + 1 - range.1) - 1) <<< range.1).testBit code = true ↔
        range.1 ≤ code ∧ code ≤ range.2 := by
      rw [Nat.one_shiftLeft, Nat.testBit_shiftLeft, Nat.testBit_two_pow_sub_one, Bool.and_eq_true, decide_eq_true_iff,
        decide_eq_true_iff]
      omega
    rw [bitsOf, List.foldr_cons, Nat.testBit_or, Bool.or_eq_true, own, ← bitsOf, ih, List.exists_mem_cons_iff,
      or_comm]

/-- Within its bounds, the bits of a window are those of the ranges. -/
theorem testBit_window {first last code : Nat} (above : first ≤ code) (below : code ≤ last) :
    (window ranges first last).testBit (code - first) = (bitsOf ranges).testBit code := by
  have inside : code - first < last + 1 - first := by omega
  rw [window, Nat.one_shiftLeft, Nat.testBit_mod_two_pow, Nat.testBit_shiftRight, decide_eq_true inside, Bool.true_and,
    Nat.add_sub_cancel' above]

/-- A character does not lie in ranges that have none of the code points around it. -/
theorem not_within_of_spansNone {first last : Nat} (none : spansNone ranges first last = true)
    (above : first ≤ c.toNat) (below : c.toNat ≤ last) : ¬ Within ranges c := by
  intro inside
  have bit := (testBit_window above below).trans (testBit_bitsOf.mpr inside)
  rw [beq_iff_eq.mp none, Nat.zero_testBit] at bit
  cases bit

/-- The character of a code point does not lie in ranges that have none of the code points around it. -/
theorem not_within_ofNat {first last code : Nat} (positive : ∀ range ∈ ranges, 0 < range.1)
    (none : spansNone ranges first last = true) (above : first ≤ code) (below : code ≤ last) :
    ¬ Within ranges (Char.ofNat code) := by
  by_cases valid : code.isValidChar
  · have same : (Char.ofNat code).toNat = code := by
      rw [Char.ofNat, dif_pos valid]
      rfl
    exact not_within_of_spansNone none (by omega) (by omega)
  · -- What is no code point of a character stands for the null character.
    have zero : (Char.ofNat code).toNat = 0 := by
      rw [Char.ofNat, dif_neg valid]
      rfl
    rintro ⟨range, mem, start, -⟩
    have := positive range mem
    omega

/-- A character is left alone, or moved by a shift that covers it. -/
theorem shifted_cases (table : List Shift) (c : Char) :
    (covered table c = false ∧ shifted table c = c) ∨
      ∃ shift ∈ table, shift.moves c.toNat = true ∧
        shifted table c = Char.ofNat (shift.target + (c.toNat - shift.first)) := by
  rw [shifted]
  cases found : table.find? fun shift => shift.moves c.toNat with
  | none =>
    refine .inl ⟨?_, rfl⟩
    simpa [covered] using found
  | some shift =>
    have moves : shift.moves c.toNat = true := List.find?_some (p := fun s : Shift => s.moves c.toNat) found
    exact .inr ⟨shift, List.mem_of_find?_eq_some found, moves, rfl⟩

/-- A table that moves nothing into ranges leaves a character out of them if it was not in them. -/
theorem not_within_shifted (positive : ∀ range ∈ ranges, 0 < range.1)
    (avoided : avoids ranges table = true) (outside : covered table c = false → ¬ Within ranges c) :
    ¬ Within ranges (shifted table c) := by
  obtain ⟨uncovered, same⟩ | ⟨shift, mem, moves, same⟩ := shifted_cases table c
  · rw [same]
    exact outside uncovered
  · have none := List.all_eq_true.mp avoided shift mem
    simp only [Shift.moves, Bool.and_eq_true, decide_eq_true_eq] at moves
    rw [same]
    exact not_within_ofNat positive none (by omega) (by omega)

/-- Nothing that lies in ranges that a table spares is covered by it. -/
theorem covered_of_spares (spared : spares ranges table = true) (inside : Within ranges c) :
    covered table c = false := by
  refine List.any_eq_false.mpr fun shift mem => ?_
  have none := List.all_eq_true.mp spared shift mem
  simp only [Shift.moves, Bool.and_eq_true, decide_eq_true_eq]
  rintro ⟨⟨above, below⟩, -⟩
  exact not_within_of_spansNone none above below inside

/-- A character that no shift covers stays as it is. -/
theorem shifted_of_uncovered (uncovered : covered table c = false) : shifted table c = c := by
  obtain ⟨-, same⟩ | ⟨shift, mem, moves, -⟩ := shifted_cases table c
  · exact same
  · exact absurd moves (List.any_eq_false.mp uncovered shift mem)

/-- A table moves a character as its first shift does, or else as the others do. -/
theorem shifted_cons (shift : Shift) (table : List Shift) : shifted (shift :: table) c =
    if shift.moves c.toNat then Char.ofNat (shift.target + (c.toNat - shift.first)) else shifted table c := by
  cases moves : shift.moves c.toNat <;> simp [shifted, moves]

/-- What a table of sequences gives for a character is one of its entries. -/
theorem mem_of_expansion? {entries : List (Nat × List Nat)} {form : List Char}
    (found : expansion? entries c = some form) :
    ∃ codes, (c.toNat, codes) ∈ entries ∧ form = codes.map Char.ofNat := by
  obtain ⟨⟨code, codes⟩, entry, rfl⟩ := Option.map_eq_some_iff.mp found
  have same : code = c.toNat := by simpa using List.find?_some entry
  exact ⟨codes, same ▸ List.mem_of_find?_eq_some entry, rfl⟩

/-- The form of a character at the head of a word is a sequence of its own, or where it is moved to. -/
theorem titleOf_cases (c : Char) :
    (∃ codes, (c.toNat, codes) ∈ headExpansions ∧ titleOf c = codes.map Char.ofNat) ∨
      titleOf c = [shifted titleShifts c] ∨ titleOf c = [shifted upperShifts c] := by
  rw [titleOf]
  split
  · next found =>
    obtain ⟨codes, listed, rfl⟩ := mem_of_expansion? found
    exact .inl ⟨codes, List.mem_append_left _ listed, rfl⟩
  · next absent =>
    split
    · exact .inr (.inl rfl)
    · rw [upperOf]
      split
      · next found =>
        obtain ⟨codes, listed, rfl⟩ := mem_of_expansion? found
        -- The upper-case form is taken only if there is no other one.
        simp only [expansion?, Option.map_eq_none_iff, List.find?_eq_none, beq_iff_eq] at absent
        refine .inl ⟨codes, List.mem_append_right _ (List.mem_filter.mpr ⟨listed, ?_⟩), rfl⟩
        simpa using fun code form mem => absent (code, form) mem
      · exact .inr (.inr rfl)

/-- A lower-case form avoids ranges unless its character is left as it is and lies in one of them. -/
theorem not_within_lowerBetween (avoided : avoidedByLower ranges = true)
    (outside : covered lowerShifts c = false → ¬ Within ranges c)
    (mem : d ∈ lowerBetween before after c) : ¬ Within ranges d := by
  simp only [avoidedByLower, Bool.and_eq_true, List.all_eq_true, decide_eq_true_eq] at avoided
  obtain ⟨⟨positive, shifts⟩, others⟩ := avoided
  -- Four characters are put in by rule and not by shifts; the ranges hold none of them.
  have other (code : Nat) (listed : code ∈ [0x3c2, 0x3c3, 0x69, 0x307]) :
      ¬ Within ranges (Char.ofNat code) :=
    not_within_ofNat positive (others code listed) (Nat.le_refl _) (Nat.le_refl _)
  rw [lowerBetween, lowerOf] at mem
  split at mem
  · split at mem
    · rw [List.mem_singleton.mp mem]
      exact other 0x3c2 (by decide)
    · rw [List.mem_singleton.mp mem]
      exact other 0x3c3 (by decide)
  · split at mem
    · obtain rfl | rfl : d = 'i' ∨ d = '\u0307' := by simpa using mem
      · exact other 0x69 (by decide)
      · exact other 0x307 (by decide)
    · rw [List.mem_singleton.mp mem]
      exact not_within_shifted positive shifts outside

/-- A form at the head of a word avoids ranges that its character does not lie in. -/
theorem not_within_titleOf (avoided : avoidedByTitle ranges = true) (outside : ¬ Within ranges c)
    (mem : d ∈ titleOf c) : ¬ Within ranges d := by
  simp only [avoidedByTitle, Bool.and_eq_true, List.all_eq_true, decide_eq_true_eq] at avoided
  obtain ⟨⟨⟨positive, upper⟩, title⟩, expanded⟩ := avoided
  obtain ⟨codes, listed, form⟩ | form | form := titleOf_cases c <;> rw [form] at mem
  · obtain ⟨code, inside, rfl⟩ := List.mem_map.mp mem
    exact not_within_ofNat positive (expanded _ listed code inside) (Nat.le_refl _) (Nat.le_refl _)
  · rw [List.mem_singleton.mp mem]
    exact not_within_shifted positive title fun _ => outside
  · rw [List.mem_singleton.mp mem]
    exact not_within_shifted positive upper fun _ => outside

/-- Lowering a text puts no character of avoided ranges into it. -/
theorem not_within_lowerAfter (avoided : avoidedByLower ranges = true)
    (outside : ∀ c ∈ cs, covered lowerShifts c = false → ¬ Within ranges c)
    (mem : d ∈ lowerAfter before cs) : ¬ Within ranges d := by
  -- What stands before a character grows on the way, so it stays quantified over.
  induction cs generalizing before with
  | nil => cases mem
  | cons c rest ih =>
    rcases List.mem_append.mp mem with first | later
    · exact not_within_lowerBetween avoided (outside c List.mem_cons_self) first
    · exact ih (fun c mem => outside c (List.mem_cons_of_mem _ mem)) later

/-- Capitalizing a text puts no character of avoided ranges into it. -/
theorem not_within_capitalize (lower : avoidedByLower ranges = true)
    (title : avoidedByTitle ranges = true) (outside : ∀ c ∈ cs, ¬ Within ranges c)
    (mem : d ∈ capitalize cs) : ¬ Within ranges d := by
  cases cs with
  | nil => cases mem
  | cons c rest =>
    rcases List.mem_append.mp mem with first | later
    · exact not_within_titleOf title (outside c List.mem_cons_self) first
    · exact not_within_lowerAfter lower (fun c mem _ => outside c (List.mem_cons_of_mem _ mem)) later

/-- The letters `A` to `Z`. -/
def capitalRange : List (Nat × Nat) :=
  [(0x41, 0x5a)]

/-- A character is one of the letters `A` to `Z` exactly if it lies in their range. -/
theorem within_capitalRange : Within capitalRange c ↔ isAsciiUpper c = true := by
  simp only [Within, capitalRange, List.mem_singleton, exists_eq_left, isAsciiUpper, Bool.and_eq_true,
    decide_eq_true_eq]
  rfl

/-- No character of a text in lower case is a capital of the ASCII alphabet. -/
theorem isAsciiUpper_of_mem_lowerAfter (mem : d ∈ lowerAfter before cs) : isAsciiUpper d = false := by
  have outside : ¬ Within capitalRange d := by
    refine not_within_lowerAfter (by decide) (fun c _ uncovered inside => ?_) mem
    -- The capitals are what the first shift of the table moves.
    have moved : (⟨0x41, 0x5a, 1, 0x61⟩ : Shift).moves c.toNat = true := by
      simpa [Within, capitalRange, Shift.moves, Nat.mod_one] using inside
    exact List.any_eq_false.mp uncovered _ List.mem_cons_self moved
  simpa [within_capitalRange] using outside

/-- The letters `a` to `z`. -/
def smallRange : List (Nat × Nat) :=
  [(0x61, 0x7a)]

/-- A character is one of the letters `a` to `z` exactly if it lies in their range. -/
theorem within_smallRange : Within smallRange c ↔ isAsciiLower c = true := by
  simp only [Within, smallRange, List.mem_singleton, exists_eq_left, isAsciiLower, Bool.and_eq_true,
    decide_eq_true_eq]
  rfl

/-- A capital behind a letter or a digit, where a word begins in a name in camel case. -/
def isHump (a b : Char) : Bool :=
  isWordChar a && isAsciiUpper b

/-- What is checked of the characters of all code points below a bound holds of a character below it. -/
theorem of_codes {P : Char → Prop} {bound : Nat} (checked : ∀ code < bound, P (Char.ofNat code))
    (small : c.toNat < bound) : P c := by
  have fact := checked c.toNat small
  rwa [Char.ofNat_toNat] at fact

/-- The sequences that are the forms of a character are not empty. There is no hump in one at the head of a word, and no
small letter of the ASCII alphabet in one in upper case. -/
theorem facts_of_expansions :
    (∀ entry ∈ headExpansions, entry.2 ≠ [] ∧
      (entry.2.map Char.ofNat).IsChain fun a b => isHump a b = false) ∧
      ∀ entry ∈ upperExpansions, entry.2 ≠ [] ∧ ∀ code ∈ entry.2, isAsciiLower (Char.ofNat code) = false := by
  decide +kernel

/-- What the first shifts of the tables do to characters of ASCII is what the alphabet does to them. -/
theorem facts_of_ascii (small : c.toNat < 128) :
    (if isAsciiUpper c then Char.ofNat (0x61 + (c.toNat - 0x41)) else c) = c.toLower ∧
      (if isAsciiLower c then Char.ofNat (0x41 + (c.toNat - 0x61)) else c) = c.toUpper ∧
      ((isAsciiLower c || isAsciiUpper c) = true → isWordChar c.toLower = true ∧ isWordChar c.toUpper = true) ∧
      (isAsciiUpper c = true → c.toLower.toNat < 128 ∧ c.toLower.toUpper = c) := by
  apply of_codes (c := c) ?_ small
  decide +kernel

/-- No form of a character in the ranges is an exception from the tables of shifts: none is the dotted capital I, has a
sequence as its form, or a form of its own at the head of a word. -/
class IsRegular (ranges : List (Nat × Nat)) : Prop where
  dotted : spansNone ranges 0x130 0x130 = true
  title : spares ranges titleShifts = true
  unlisted : ((titleExpansions ++ upperExpansions).all fun entry => spansNone ranges entry.1 entry.1) = true

/-- No character in the ranges has another case. -/
class IsCaseless (ranges : List (Nat × Nat)) : Prop extends IsRegular ranges where
  lower : spares ranges lowerShifts = true
  upper : spares ranges upperShifts = true

instance : IsRegular [(0, 127)] := ⟨by decide +kernel, by decide +kernel, by decide +kernel⟩

instance : IsRegular decimalRanges := ⟨by decide +kernel, by decide +kernel, by decide +kernel⟩

instance : IsCaseless decimalRanges := ⟨by decide +kernel, by decide +kernel⟩

/-- No upper-case form has a small letter of the ASCII alphabet. -/
theorem isAsciiLower_of_mem_upperOf (mem : d ∈ upperOf c) : isAsciiLower d = false := by
  rw [upperOf] at mem
  split at mem
  · next found =>
    obtain ⟨codes, listed, rfl⟩ := mem_of_expansion? found
    obtain ⟨code, inside, rfl⟩ := List.mem_map.mp mem
    exact (facts_of_expansions.2 _ listed).2 code inside
  · have outside : ¬ Within smallRange (shifted upperShifts c) := by
      refine not_within_shifted (by decide) (by decide) fun uncovered inside => ?_
      -- The small letters are what the first shift of the table moves.
      have moved : (⟨0x61, 0x7a, 1, 0x41⟩ : Shift).moves c.toNat = true := by
        simpa [Within, smallRange, Shift.moves, Nat.mod_one] using inside
      exact List.any_eq_false.mp uncovered _ List.mem_cons_self moved
    rw [List.mem_singleton.mp mem]
    simpa [within_smallRange] using outside

/-- Every character has an upper-case form. -/
theorem upperOf_ne_nil (c : Char) : upperOf c ≠ [] := by
  rw [upperOf]
  split
  · next found =>
    obtain ⟨codes, listed, rfl⟩ := mem_of_expansion? found
    simpa using (facts_of_expansions.2 _ listed).1
  · simp

/-- There is no hump inside the form of a character at the head of a word. -/
theorem isChain_titleOf (c : Char) : (titleOf c).IsChain fun a b => isHump a b = false := by
  obtain ⟨codes, listed, form⟩ | form | form := titleOf_cases c <;> rw [form]
  · exact (facts_of_expansions.1 _ listed).2
  · exact List.isChain_singleton _
  · exact List.isChain_singleton _

/-- There is no hump inside a capitalized text. -/
theorem isChain_capitalize (cs : List Char) :
    (capitalize cs).IsChain fun a b => isHump a b = false := by
  cases cs with
  | nil => exact .nil
  | cons c rest =>
    have lower {a b : Char} (mem : b ∈ lowerAfter [c] rest) : isHump a b = false := by
      simp [isHump, isAsciiUpper_of_mem_lowerAfter mem]
    refine List.isChain_append.mpr ⟨isChain_titleOf c, ?_, ?_⟩
    · exact (List.pairwise_of_forall_mem_list fun _ _ _ mem => lower mem).isChain
    · exact fun _ _ _ mem => lower (List.mem_of_mem_head? mem)

/-- The forms of characters in ranges that no exception is for are where the tables of shifts move them. -/
theorem forms_of_isRegular [regular : IsRegular ranges] (inside : Within ranges c) :
    lowerOf c = [shifted lowerShifts c] ∧ titleOf c = [shifted upperShifts c] := by
  -- No table of expansions has an entry for a character of the ranges.
  have unexpanded {entries : List (Nat × List Nat)} (among : entries ⊆ titleExpansions ++ upperExpansions) :
      expansion? entries c = none := by
    simp only [expansion?, Option.map_eq_none_iff, List.find?_eq_none, beq_iff_eq]
    rintro entry mem same
    have none := List.all_eq_true.mp regular.unlisted entry (among mem)
    exact not_within_of_spansNone none (Nat.le_of_eq same) (Nat.le_of_eq same.symm) inside
  constructor
  · rw [lowerOf, if_neg]
    rintro same
    rw [beq_iff_eq.mp same] at inside
    exact not_within_of_spansNone regular.dotted (Nat.le_refl _) (Nat.le_refl _) inside
  · rw [titleOf, unexpanded (List.subset_append_left _ _), covered_of_spares regular.title inside, upperOf,
      unexpanded (List.subset_append_right _ _)]
    rfl

/-- Characters in ranges of characters without another case stay as they are. -/
theorem forms_of_isCaseless [caseless : IsCaseless ranges] (inside : Within ranges c) :
    lowerOf c = [c] ∧ titleOf c = [c] := by
  obtain ⟨lower, title⟩ := forms_of_isRegular inside
  rw [lower, title, shifted_of_uncovered (covered_of_spares caseless.lower inside),
    shifted_of_uncovered (covered_of_spares caseless.upper inside)]
  exact ⟨rfl, rfl⟩

/-- No decimal digit has another case. -/
theorem case_of_isDecimal (decimal : isDecimal c = true) : lowerOf c = [c] ∧ titleOf c = [c] :=
  forms_of_isCaseless ((inRanges_iff_within (ascending_of_isChain (by decide))).mp decimal)

/-- A letter of the ASCII alphabet is one of the first characters. -/
theorem lt_of_isAsciiLetter (letter : (isAsciiLower c || isAsciiUpper c) = true) : c.toNat < 128 := by
  simp only [isAsciiLower, isAsciiUpper, Bool.or_eq_true, Bool.and_eq_true, decide_eq_true_eq] at letter
  rcases letter with ⟨-, high⟩ | ⟨-, high⟩
  · exact Nat.lt_of_le_of_lt (UInt32.le_iff_toNat_le.mp high) (by decide)
  · exact Nat.lt_of_le_of_lt (UInt32.le_iff_toNat_le.mp high) (by decide)

/-- The forms of characters of ASCII are those that the alphabet has. -/
theorem forms_of_ascii (small : c.toNat < 128) : lowerOf c = [c.toLower] ∧ titleOf c = [c.toUpper] := by
  -- Only the first shift of each table is for characters of ASCII.
  obtain ⟨noLower, noUpper⟩ : spares [(0, 127)] lowerShifts.tail = true ∧
      spares [(0, 127)] upperShifts.tail = true := by decide +kernel
  have inside : Within [(0, 127)] c := ⟨(0, 127), List.mem_cons_self, Nat.zero_le _, Nat.le_of_lt_succ small⟩
  have capital : (⟨0x41, 0x5a, 1, 0x61⟩ : Shift).moves c.toNat = isAsciiUpper c := by
    rw [Bool.eq_iff_iff, ← within_capitalRange]
    simp [Within, capitalRange, Shift.moves, Nat.mod_one]
  have little : (⟨0x61, 0x7a, 1, 0x41⟩ : Shift).moves c.toNat = isAsciiLower c := by
    rw [Bool.eq_iff_iff, ← within_smallRange]
    simp [Within, smallRange, Shift.moves, Nat.mod_one]
  have lowered : shifted lowerShifts c = _ := shifted_cons _ lowerShifts.tail
  have raised : shifted upperShifts c = _ := shifted_cons _ upperShifts.tail
  obtain ⟨lower, title⟩ := forms_of_isRegular inside
  obtain ⟨asLower, asUpper, -⟩ := facts_of_ascii small
  rw [capital, shifted_of_uncovered (covered_of_spares noLower inside), asLower] at lowered
  rw [little, shifted_of_uncovered (covered_of_spares noUpper inside), asUpper] at raised
  exact ⟨by rw [lower, lowered], by rw [title, raised]⟩

/-- A letter or a digit has one character in either case, a letter or a digit again. -/
theorem case_of_isWordChar (word : isWordChar c = true) :
    (∃ d, lowerOf c = [d] ∧ isWordChar d = true) ∧ ∃ d, titleOf c = [d] ∧ isWordChar d = true := by
  rcases Bool.or_eq_true_iff.mp word with letter | decimal
  · have small := lt_of_isAsciiLetter letter
    obtain ⟨lower, title⟩ := forms_of_ascii small
    obtain ⟨lowerWord, upperWord⟩ := (facts_of_ascii small).2.2.1 letter
    exact ⟨⟨_, lower, lowerWord⟩, _, title, upperWord⟩
  · obtain ⟨lower, title⟩ := case_of_isDecimal decimal
    exact ⟨⟨c, lower, word⟩, c, title, word⟩

/-- A capital of the ASCII alphabet that is put in lower case is itself again at the head of a word. -/
theorem titleOf_lowerOf_of_isAsciiUpper (capital : isAsciiUpper c = true) :
    ∃ d, lowerOf c = [d] ∧ titleOf d = [c] := by
  have small := lt_of_isAsciiLetter (c := c) (by simp [capital])
  obtain ⟨smallLower, back⟩ := (facts_of_ascii small).2.2.2 capital
  exact ⟨c.toLower, (forms_of_ascii small).1, by rw [(forms_of_ascii smallLower).2, back]⟩

/-- The place of a letter or a digit in a text makes no difference to its lower-case form. -/
theorem lowerBetween_of_isWordChar (word : isWordChar c = true) :
    lowerBetween before after c = lowerOf c := by
  rw [lowerBetween, if_neg]
  rintro same
  rw [beq_iff_eq.mp same] at word
  exact absurd word (by decide)

/-- A text that ends in a letter or a digit still does in lower case. -/
theorem getLast?_lowerAfter (last : cs.getLast? = some c) (word : isWordChar c = true) :
    ∃ d, (lowerAfter before cs).getLast? = some d ∧ isWordChar d = true := by
  induction cs generalizing before with
  | nil => cases last
  | cons first rest ih =>
    rw [lowerAfter, List.getLast?_append]
    -- Only the last character matters, whatever comes of those before it.
    cases rest with
    | nil =>
      obtain rfl : first = c := by simpa using last
      obtain ⟨⟨d, lower, isWord⟩, -⟩ := case_of_isWordChar word
      exact ⟨d, by simp [lowerAfter, lowerBetween_of_isWordChar word, lower], isWord⟩
    | cons second rest =>
      obtain ⟨d, found, isWord⟩ : ∃ d,
          (lowerAfter (first :: before) (second :: rest)).getLast? = some d ∧ isWordChar d = true :=
        ih (by simpa using last)
      exact ⟨d, by simp [found], isWord⟩

/-- A text that ends in a letter or a digit still does when it is capitalized. -/
theorem getLast?_capitalize (last : cs.getLast? = some c) (word : isWordChar c = true) :
    ∃ d, (capitalize cs).getLast? = some d ∧ isWordChar d = true := by
  cases cs with
  | nil => cases last
  | cons first rest =>
    rw [capitalize, List.getLast?_append]
    -- The last character may be the first one too, which is changed in another way than those behind it.
    cases rest with
    | nil =>
      obtain rfl : first = c := by simpa using last
      obtain ⟨-, d, title, isWord⟩ := case_of_isWordChar word
      exact ⟨d, by simp [lowerAfter, title], isWord⟩
    | cons second rest =>
      obtain ⟨d, found, isWord⟩ := getLast?_lowerAfter (by simpa using last) word
      exact ⟨d, by rw [found]; rfl, isWord⟩

/-- A text that begins with a capital does so again when it is put in lower case and capitalized. -/
theorem head?_capitalize_toLower (head : cs.head? = some c) (capital : isAsciiUpper c = true) :
    (capitalize (toLower cs)).head? = some c := by
  obtain ⟨d, lower, title⟩ := titleOf_lowerOf_of_isAsciiUpper capital
  have word : isWordChar c = true := by simp [isWordChar, capital]
  cases cs with
  | nil => cases head
  | cons first rest =>
    cases head
    simp [toLower, lowerAfter, lowerBetween_of_isWordChar word, lower, capitalize, title]

/-- Every character has a form at the head of a word. -/
theorem titleOf_ne_nil (c : Char) : titleOf c ≠ [] := by
  obtain ⟨codes, listed, form⟩ | form | form := titleOf_cases c <;> rw [form]
  · simpa using (facts_of_expansions.1 _ listed).1
  · simp
  · simp

/-- A text that is not empty is still not when it is put in lower case and capitalized. -/
theorem capitalize_toLower_ne_nil (some : cs ≠ []) : capitalize (toLower cs) ≠ [] := by
  have kept (text : List Char) : text ≠ [] → capitalize text ≠ [] := by
    cases text with
    | nil => simp
    | cons c rest => simp [capitalize, titleOf_ne_nil]
  apply kept
  -- The first character has a lower-case form, which is not empty in any of its cases.
  obtain ⟨c, rest, rfl⟩ := List.exists_cons_of_ne_nil some
  rw [toLower, lowerAfter, lowerBetween, lowerOf]
  split
  · simp
  · split <;> simp

end TypedClient.Text
