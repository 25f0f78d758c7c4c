import Mathlib.Data.List.Basic
import TypedClient.Proofs.Text.Case
import TypedClient.Text.Digit
import TypedClient.Text.Identifier

/-! The digits of all scripts: the ten of ASCII are among them, and what begins a name is not. -/

namespace TypedClient.Text

/-- Whether no code point lies in ranges of both lists, each of which ascends. -/
def areApart : List (Nat × Nat) → List (Nat × Nat) → Bool
  | [], _ => true
  | range :: rest, others =>
    -- What lies below the range lies below all that come after it.
    let later := others.dropWhile fun other => other.2 < range.1
    (later.head?.all fun other => range.2 < other.1) && areApart rest later

variable {ranges others : List (Nat × Nat)} {c d : Char}

/-- A digit of ASCII is a decimal one, with the value that it has in any numeral. -/
theorem decimal_of_isDigit (digit : c.isDigit = true) :
    isDigit c = true ∧ isDecimal c = true ∧ decimalValue c = c.toNat - '0'.toNat := by
  -- The digits are among the first codes, so that each of these can be looked at.
  have small : c.toNat < 58 := Nat.lt_succ_of_le (Char.isDigit_iff_toNat.mp digit).2
  refine of_codes (P := fun c => c.isDigit = true →
    isDigit c = true ∧ isDecimal c = true ∧ decimalValue c = c.toNat - '0'.toNat) ?_ small digit
  decide

/-- Digits of ASCII denote the number that they denote in any numeral. -/
theorem decimalNumber_eq {digits : List Char} (each : ∀ c ∈ digits, c.isDigit = true) :
    decimalNumber digits = Nat.ofDigitChars 10 digits 0 := by
  rw [decimalNumber, Nat.ofDigitChars]
  refine List.foldl_ext _ _ 0 fun value c mem => ?_
  rw [(decimal_of_isDigit (each c mem)).2.2, Nat.mul_comm]

/-- A character does not lie in ranges that are apart from those that it lies in. -/
theorem not_within_of_areApart (ascending : ranges.Pairwise fun range later => range.1 ≤ later.1)
    (othersAscending : others.Pairwise fun range later => range.1 ≤ later.1)
    (apart : areApart ranges others = true) (inside : Within ranges c) : ¬ Within others c := by
  induction ranges generalizing others with
  | nil =>
    obtain ⟨_, mem, -⟩ := inside
    cases mem
  | cons range rest ih =>
    rintro ⟨other, listed, above, below⟩
    obtain ⟨first, ascending⟩ := List.pairwise_cons.mp ascending
    obtain ⟨head, apart⟩ := Bool.and_eq_true_iff.mp apart
    obtain ⟨found, mem, start, stop⟩ := inside
    have reached : range.1 ≤ c.toNat := by
      rcases List.mem_cons.mp mem with rfl | next
      · exact start
      · exact Nat.le_trans (first found next) start
    -- The other range goes up to the character, so it is not among those that are passed over.
    have kept : other ∈ others.dropWhile fun other => other.2 < range.1 := by
      rw [← List.takeWhile_append_dropWhile (p := fun other => decide (other.2 < range.1)) (l := others)] at listed
      refine (List.mem_append.mp listed).resolve_left fun passed => ?_
      have under := of_decide_eq_true (List.all_eq_true.mp List.all_takeWhile other passed)
      omega
    have ascendingLater := othersAscending.sublist
      (List.dropWhile_sublist fun other => decide (other.2 < range.1))
    rcases List.mem_cons.mp mem with rfl | next
    · cases same : others.dropWhile fun other => decide (other.2 < found.1) with
      | nil => simp [same] at kept
      | cons lowest above' =>
        have under : found.2 < lowest.1 := by simpa [same] using head
        rw [same] at kept ascendingLater
        have least : lowest.1 ≤ other.1 := by
          rcases List.mem_cons.mp kept with rfl | higher
          · exact Nat.le_refl _
          · exact (List.pairwise_cons.mp ascendingLater).1 other higher
        omega
    · exact ih ascending ascendingLater apart ⟨found, next, start, stop⟩ ⟨other, kept, above, below⟩

/-- The ranges of letters, of what stands with them in names, and of digits are in ascending order. -/
theorem ascending_ranges : (identifierStartRanges.Pairwise fun range later => range.1 ≤ later.1) ∧
    (identifierExtraRanges.Pairwise fun range later => range.1 ≤ later.1) ∧
      digitRanges.Pairwise fun range later => range.1 ≤ later.1 := by
  refine ⟨?_, ?_, ?_⟩ <;> exact ascending_of_isChain (by decide +kernel)

/-- Digits of all scripts and what begins a name are apart. -/
theorem isIdentifierStart_of_isDigit (digit : isDigit c = true) : isIdentifierStart c = false := by
  obtain ⟨starts, -, digits⟩ := ascending_ranges
  have outside := not_within_of_areApart digits starts (by decide +kernel)
    ((inRanges_iff_within digits).mp digit)
  have noLetter : inRanges c.toNat identifierStartRanges = false :=
    Bool.eq_false_iff.mpr fun found => outside ((inRanges_iff_within starts).mp found)
  have other : c ≠ '$' ∧ c ≠ '_' := by
    constructor <;>
    · rintro rfl
      revert digit
      decide
  simp [isIdentifierStart, isLetterLike, noLetter, other]

/-- A digit differs from whatever is no digit. -/
theorem ne_of_isDigit (digit : isDigit c = true) (other : isDigit d = false) : c ≠ d := by
  rintro rfl
  cases digit.symm.trans other

end TypedClient.Text
