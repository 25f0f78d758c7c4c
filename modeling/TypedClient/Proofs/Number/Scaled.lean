import Mathlib.Algebra.Order.Field.Power
import Mathlib.Data.Rat.Cast.Order
import Mathlib.Tactic.Linarith
import Mathlib.Tactic.NormNum
import Mathlib.Tactic.Ring
import TypedClient.Number.Shortest

/-! Scaled numbers compared as rational numbers, and what an interval between two of them holds. -/

namespace TypedClient.Double

/-- A power with a whole exponent is one with a natural exponent over another, of which one is trivial. -/
theorem zpow_eq_div {base : ℚ} (nonzero : base ≠ 0) (exponent : ℤ) :
    base ^ exponent = base ^ exponent.toNat / base ^ (-exponent).toNat := by
  rw [eq_div_iff (pow_ne_zero _ nonzero), ← zpow_natCast, ← zpow_natCast, ← zpow_add₀ nonzero]
  congr 1
  omega

namespace Scaled

/-- The rational number that a scaled one stands for. -/
def rational (x : Scaled) : ℚ :=
  x.factor * 2 ^ x.twos * 10 ^ x.tens

/-- The denominator of a scaled number is positive. -/
theorem denominator_pos (x : Scaled) : 0 < x.ratio.2 := by
  simp only [ratio, Nat.pow_eq]
  positivity

/-- A scaled number is its numerator over its denominator. -/
theorem rational_eq (x : Scaled) : x.rational = x.ratio.1 / x.ratio.2 := by
  rw [rational, zpow_eq_div (by norm_num), zpow_eq_div (by norm_num)]
  simp only [ratio, Nat.pow_eq]
  push_cast
  ring

/-- Scaled numbers are compared as rational numbers. -/
theorem le_iff (x y : Scaled) : x.le y = true ↔ x.rational ≤ y.rational := by
  have left : (0 : ℚ) < x.ratio.2 := by exact_mod_cast x.denominator_pos
  have right : (0 : ℚ) < y.ratio.2 := by exact_mod_cast y.denominator_pos
  rw [le, decide_eq_true_iff, rational_eq, rational_eq, div_le_div_iff₀ left right]
  exact_mod_cast Iff.rfl

/-- Scaled numbers are compared strictly as rational numbers. -/
theorem lt_iff (x y : Scaled) : x.lt y = true ↔ x.rational < y.rational := by
  have left : (0 : ℚ) < x.ratio.2 := by exact_mod_cast x.denominator_pos
  have right : (0 : ℚ) < y.ratio.2 := by exact_mod_cast y.denominator_pos
  rw [lt, decide_eq_true_iff, rational_eq, rational_eq, div_lt_div_iff₀ left right]
  exact_mod_cast Iff.rfl

end Scaled

/-- An integer below `2 ^ 53` has fifty-three bits or fewer. -/
theorem log2_le {n : Nat} (positive : 0 < n) (small : n < 2 ^ 53) : n.log2 ≤ 52 := by
  have := (Nat.log2_lt positive.ne').mpr small
  omega

/-- With the bits that are spare, an integer has fifty-three bits. -/
theorem full_bounds {n spare : Nat} (positive : 0 < n) (bits : 52 = n.log2 + spare) :
    2 ^ 52 ≤ n * 2 ^ spare ∧ n * 2 ^ spare < 2 ^ 53 := by
  constructor
  · calc 2 ^ 52 = 2 ^ n.log2 * 2 ^ spare := by rw [bits, pow_add]
      _ ≤ n * 2 ^ spare := by gcongr; exact Nat.log2_self_le positive.ne'
  · have := Nat.lt_log2_self (n := n)
    calc n * 2 ^ spare < 2 ^ (n.log2 + 1) * 2 ^ spare := by gcongr
      _ = 2 ^ 53 := by rw [← pow_add]; congr 1; omega

namespace Interval

variable {i : Interval}

/-- What the interval holds is not beyond its ends. -/
theorem bounds_of_holds {x : Scaled} (holds : i.holds x = true) :
    i.low.rational ≤ x.rational ∧ x.rational ≤ i.high.rational := by
  rw [Interval.holds] at holds
  split at holds
  · obtain ⟨above, below⟩ := Bool.and_eq_true_iff.mp holds
    exact ⟨(Scaled.le_iff _ _).mp above, (Scaled.le_iff _ _).mp below⟩
  · obtain ⟨above, below⟩ := Bool.and_eq_true_iff.mp holds
    exact ⟨((Scaled.lt_iff _ _).mp above).le, ((Scaled.lt_iff _ _).mp below).le⟩

/-- The interval holds what lies between its ends. -/
theorem holds_of_between {x : Scaled} (above : i.low.rational < x.rational)
    (below : x.rational < i.high.rational) : i.holds x = true := by
  rw [Interval.holds]
  split
  · exact Bool.and_eq_true_iff.mpr ⟨(Scaled.le_iff _ _).mpr above.le, (Scaled.le_iff _ _).mpr below.le⟩
  · exact Bool.and_eq_true_iff.mpr ⟨(Scaled.lt_iff _ _).mpr above, (Scaled.lt_iff _ _).mpr below⟩

/-- The decimal on a grid is in the interval. -/
theorem holds_of_onGrid? {digits : Nat} {tens : Int} (found : i.onGrid? tens = some digits) :
    i.holds ⟨digits, 0, tens⟩ = true := by
  unfold onGrid? at found
  extract_lets unit numerator denominator below nearest other at found
  split at found
  · next holds =>
    rw [← Option.some.inj found]
    exact (Bool.and_eq_true_iff.mp holds).2
  · split at found
    · next holds =>
      rw [← Option.some.inj found]
      exact (Bool.and_eq_true_iff.mp holds).2
    · cases found

end Interval

end TypedClient.Double
