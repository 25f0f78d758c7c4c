import Mathlib.Algebra.Order.Ring.Nat
import TypedClient.Number.Double

/-! The doubles nearest to integers: which integers are doubles themselves. -/

namespace TypedClient

namespace Floating

/-- Factors of two are part of the mantissa or of the exponent, and the number is the same. -/
theorem reduced_mul_pow (negative : Bool) {mantissa : Nat} (nonzero : mantissa ≠ 0) (spare : Nat)
    (exponent : Int) :
    reduced negative (mantissa * 2 ^ spare) (exponent - spare) = reduced negative mantissa exponent := by
  induction spare with
  | zero => simp
  | succ spare ih =>
    -- One factor is moved, which leaves one less to be moved.
    have positive : mantissa * 2 ^ (spare + 1) ≠ 0 := mul_ne_zero nonzero (pow_ne_zero _ two_ne_zero)
    have even : mantissa * 2 ^ (spare + 1) = mantissa * 2 ^ spare * 2 := by rw [pow_succ, mul_assoc]
    rw [reduced, if_neg positive, even, if_pos (Nat.mul_mod_left _ _), Nat.mul_div_cancel _ Nat.two_pos,
      show exponent - (spare + 1 : Nat) + 1 = exponent - spare by omega, ih]

/-- What is moved to the exponent is a power of two. -/
theorem exists_reduced (negative : Bool) {mantissa : Nat} (nonzero : mantissa ≠ 0) (exponent : Int) :
    ∃ m k : Nat, reduced negative mantissa exponent = finite negative m (exponent + k) ∧
      mantissa = m * 2 ^ k ∧ m ≠ 0 := by
  fun_induction reduced negative mantissa exponent with
  | case1 => exact absurd rfl nonzero
  | case2 mantissa exponent _ even ih =>
    obtain ⟨m, k, same, equal, some⟩ := ih (by omega)
    refine ⟨m, k + 1, by rw [same]; congr 1; omega, ?_, some⟩
    rw [pow_succ, ← mul_assoc, ← equal]
    omega
  | case3 mantissa exponent => exact ⟨mantissa, 0, by simp, by simp, nonzero⟩

/-- Integers of at most fifty-three bits are doubles. -/
theorem isDouble_ofInt {n : Int} (small : n.natAbs ≤ 2 ^ 53) : (ofInt n).IsDouble := by
  refine Double.isDouble_reduced _ small (by decide) ?_
  obtain zero | positive := Nat.eq_zero_or_pos n.natAbs
  · simp [zero]
  · have := (Nat.log2_lt positive.ne').mpr (small.trans_lt (by decide : 2 ^ 53 < 2 ^ 54))
    omega

end Floating

namespace Double

variable {n : Nat}

/-- A multiple is divided without rounding. -/
theorem roundedQuotient_mul (n : Nat) {denominator : Nat} (positive : 0 < denominator) :
    roundedQuotient (n * denominator) denominator = n := by
  simp [roundedQuotient, Nat.mul_div_cancel _ positive, positive.ne]

/-- At a place below the point an integer is only multiplied. -/
theorem roundedAt_neg (n spare : Nat) : roundedAt n 1 (-spare) = n * 2 ^ spare := by
  have whole := roundedQuotient_mul (n * 2 ^ spare) Nat.one_pos
  rw [mul_one] at whole
  rw [roundedAt]
  split
  · obtain rfl : spare = 0 := by omega
    simpa using whole
  · simpa using whole

/-- At a place above the point a multiple of the place is only divided. -/
theorem roundedAt_mul (n drop : Nat) : roundedAt (n * 2 ^ drop) 1 drop = n := by
  rw [roundedAt, if_pos (by omega), Int.toNat_natCast, one_mul]
  exact roundedQuotient_mul n (Nat.two_pow_pos drop)

/-- The last place of an integer is fifty-two bits behind its first one. -/
theorem lastPlace_one (positive : 0 < n) : lastPlace n 1 = (n.log2 : Int) - 52 := by
  have fits : 2 ^ n.log2 ≤ n := Nat.log2_self_le positive.ne'
  have one : Nat.log2 1 = 0 := by decide
  have exponent : binaryExponent n 1 = n.log2 := by simp [binaryExponent, fits, one]
  rw [lastPlace, exponent]
  omega

/-- The first bit of an integer is no further in front than its mantissa and its exponent say. -/
theorem log2_mul_pow_le (m k : Nat) : (m * 2 ^ k).log2 ≤ m.log2 + k := by
  rcases Nat.eq_zero_or_pos m with rfl | positive
  · simp
  have nonzero : m * 2 ^ k ≠ 0 := mul_ne_zero positive.ne' (pow_ne_zero _ two_ne_zero)
  refine Nat.le_of_lt_succ ((Nat.log2_lt nonzero).mpr ?_)
  calc m * 2 ^ k < 2 ^ (m.log2 + 1) * 2 ^ k := Nat.mul_lt_mul_of_pos_right Nat.lt_log2_self (Nat.two_pow_pos k)
    _ = 2 ^ (m.log2 + k + 1) := by rw [← pow_add]; congr 1; omega

/-- In the range of doubles, an integer is rounded to what it is in units of its last place. -/
theorem rounded_of_lastPlace (negative : Bool) (nonzero : n ≠ 0) {place : Int} (last : lastPlace n 1 = place)
    (most : place ≤ 971) (fits : place = 971 → roundedAt n 1 place < 2 ^ 53) :
    rounded negative n 1 = .reduced negative (roundedAt n 1 place) place := by
  simp only [rounded, if_neg nonzero, last]
  refine if_neg fun beyond => ?_
  simp only [Bool.or_eq_true, Bool.and_eq_true, decide_eq_true_eq, beq_iff_eq] at beyond
  obtain beyond | ⟨largest, carried⟩ := beyond
  · omega
  · exact absurd (fits largest) (Nat.not_lt.mpr carried)

/-- An integer that is a double is not rounded. -/
theorem rounded_one {negative : Bool} (isDouble : (Floating.reduced negative n 0).IsDouble) :
    rounded negative n 1 = .reduced negative n 0 := by
  by_cases nonzero : n = 0
  · rw [rounded, if_pos nonzero, nonzero, Floating.reduced, if_pos rfl]
  have last := lastPlace_one (Nat.pos_of_ne_zero nonzero)
  obtain ⟨m, k, same, equal, some⟩ := Floating.exists_reduced negative nonzero 0
  rw [same] at isDouble
  have kept := isDouble.resolve_left fun zero => some zero.1
  have first := log2_mul_pow_le m k
  rw [← equal] at first
  have most := kept.most
  have bits := (Nat.log2_lt some).mpr kept.small
  -- With the last place at the point or below it, the integer has bits to spare; else the mantissa has few enough.
  by_cases small : n.log2 ≤ 52
  · obtain ⟨spare, place⟩ : ∃ spare : Nat, (n.log2 : Int) - 52 = -spare := ⟨52 - n.log2, by omega⟩
    have whole := Floating.reduced_mul_pow negative nonzero spare 0
    rw [zero_sub] at whole
    rw [rounded_of_lastPlace negative nonzero (last.trans place) (by omega) (by omega), roundedAt_neg, whole]
  · obtain ⟨drop, place⟩ : ∃ drop : Nat, (n.log2 : Int) - 52 = drop := ⟨n.log2 - 52, by omega⟩
    obtain ⟨more, rfl⟩ := Nat.exists_eq_add_of_le (show drop ≤ k by omega)
    have multiple : n = m * 2 ^ more * 2 ^ drop := by rw [equal, pow_add, mul_comm (2 ^ drop), mul_assoc]
    have mantissa : roundedAt n 1 drop = m * 2 ^ more := by rw [multiple, roundedAt_mul]
    have fewer : m * 2 ^ more < 2 ^ 53 := by
      have below := Nat.lt_log2_self (n := n)
      rw [show n.log2 + 1 = 53 + drop by omega, pow_add] at below
      exact Nat.lt_of_mul_lt_mul_right (multiple ▸ below)
    have whole := Floating.reduced_mul_pow negative (mul_ne_zero some (pow_ne_zero more two_ne_zero)) drop drop
    rw [sub_self, ← multiple] at whole
    rw [rounded_of_lastPlace negative nonzero (last.trans place) (by omega) (fun _ => mantissa ▸ fewer), mantissa,
      whole]

/-- The double nearest to an integer is the integer exactly if this is a double. -/
theorem value_ofInt_iff (n : Int) : (ofInt n).value = .ofInt n ↔ (Floating.ofInt n).IsDouble :=
  ⟨fun same => same ▸ (ofInt n).isDouble, rounded_one⟩

end Double

end TypedClient
