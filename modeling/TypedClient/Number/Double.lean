import TypedClient.Number.Floating

/-! Floating-point numbers of double precision, each in the one form in which it is kept. -/

namespace TypedClient

/-- A mantissa as a double that is not zero keeps it: odd, of at most fifty-three bits, and in the range of doubles. -/
structure Double.IsReduced (mantissa : Nat) (exponent : Int) : Prop where
  odd : mantissa % 2 = 1
  small : mantissa < Nat.pow 2 53
  least : -1074 ≤ exponent
  most : mantissa.log2 + exponent ≤ 1023

instance (mantissa : Nat) (exponent : Int) : Decidable (Double.IsReduced mantissa exponent) :=
  decidable_of_iff
    (mantissa % 2 = 1 ∧ mantissa < Nat.pow 2 53 ∧ -1074 ≤ exponent ∧ mantissa.log2 + exponent ≤ 1023)
    ⟨fun ⟨odd, small, least, most⟩ => ⟨odd, small, least, most⟩,
      fun reduced => ⟨reduced.odd, reduced.small, reduced.least, reduced.most⟩⟩

/-- A number is a double in the form in which it is kept; zero has no exponent. -/
def Floating.IsDouble : Floating → Prop
  | finite _ mantissa exponent => mantissa = 0 ∧ exponent = 0 ∨ Double.IsReduced mantissa exponent
  | nan | infinite _ => True

instance : DecidablePred Floating.IsDouble
  | .finite _ mantissa exponent => inferInstanceAs (Decidable (_ ∨ Double.IsReduced mantissa exponent))
  | .nan | .infinite _ => instDecidableTrue

/-- A floating-point number of double precision. -/
structure Double where
  value : Floating
  isDouble : value.IsDouble
  deriving DecidableEq, Repr

namespace Double

/-- The quotient rounded to the nearest integer, a half to the even neighbour. -/
def roundedQuotient (numerator denominator : Nat) : Nat :=
  let quotient := numerator / denominator
  let twice := 2 * (numerator % denominator)
  if denominator < twice || (twice == denominator && quotient % 2 == 1) then quotient + 1 else quotient

/-- The exponent of two that brings a positive fraction between one and two. -/
def binaryExponent (numerator denominator : Nat) : Int :=
  let estimate : Int := (numerator.log2 : Int) - denominator.log2
  -- The estimate from the leading bits is at most one too large.
  let fits :=
    if 0 ≤ estimate then denominator * Nat.pow 2 estimate.toNat ≤ numerator
    else denominator ≤ numerator * Nat.pow 2 (-estimate).toNat
  if fits then estimate else estimate - 1

/-- The exponent of the last place that a double near a fraction has. -/
def lastPlace (numerator denominator : Nat) : Int :=
  -- Fifty-three significant bits, fewer only below the smallest normal number.
  max (binaryExponent numerator denominator - 52) (-1074)

/-- A fraction in units of a power of two, rounded to a whole number of them. -/
def roundedAt (numerator denominator : Nat) (exponent : Int) : Nat :=
  if 0 ≤ exponent then roundedQuotient numerator (denominator * Nat.pow 2 exponent.toNat)
  else roundedQuotient (numerator * Nat.pow 2 (-exponent).toNat) denominator

section Bounds

variable {numerator denominator mantissa : Nat} {exponent : Int}

/-- A fraction is below a power of two, compared across in natural numbers. -/
def Below (numerator denominator : Nat) (exponent : Int) : Prop :=
  ∃ up down : Nat, (up : Int) - down = exponent ∧ numerator * Nat.pow 2 down < denominator * Nat.pow 2 up

/-- How the exponent is split makes no difference. -/
theorem Below.across (below : Below numerator denominator exponent) (up down : Nat)
    (split : (up : Int) - down = exponent) : numerator * Nat.pow 2 down < denominator * Nat.pow 2 up := by
  obtain ⟨high, low, same, less⟩ := below
  simp only [Nat.pow_eq] at less ⊢
  -- Both sides have the same factor more or less than in the split that is known.
  rcases Nat.le_total high up with le | le
  · obtain ⟨more, rfl⟩ := Nat.exists_eq_add_of_le le
    obtain rfl : down = low + more := by omega
    rw [Nat.pow_add, Nat.pow_add, ← Nat.mul_assoc, ← Nat.mul_assoc]
    exact Nat.mul_lt_mul_of_pos_right less (Nat.two_pow_pos more)
  · obtain ⟨more, rfl⟩ := Nat.exists_eq_add_of_le le
    obtain rfl : low = down + more := by omega
    rw [Nat.pow_add, Nat.pow_add, ← Nat.mul_assoc, ← Nat.mul_assoc] at less
    exact Nat.lt_of_mul_lt_mul_right less

/-- What is below a power of two is below the larger ones. -/
theorem Below.mono (below : Below numerator denominator exponent) {larger : Int} (le : exponent ≤ larger) :
    Below numerator denominator larger := by
  obtain ⟨up, down, same, less⟩ := below
  refine ⟨up + (larger - exponent).toNat, down, by omega, Nat.lt_of_lt_of_le less ?_⟩
  exact Nat.mul_le_mul_left _ (Nat.pow_le_pow_right (by decide) (Nat.le_add_right _ _))

/-- A fraction is below twice the power of two that its leading bits give. -/
theorem below_leading (numerator : Nat) (positive : 0 < denominator) :
    Below numerator denominator ((numerator.log2 : Int) - denominator.log2 + 1) := by
  refine ⟨numerator.log2 + 1, denominator.log2, by omega, ?_⟩
  calc numerator * 2 ^ denominator.log2
      < 2 ^ (numerator.log2 + 1) * 2 ^ denominator.log2 :=
        Nat.mul_lt_mul_of_pos_right Nat.lt_log2_self (Nat.two_pow_pos _)
    _ = 2 ^ denominator.log2 * 2 ^ (numerator.log2 + 1) := Nat.mul_comm _ _
    _ ≤ denominator * 2 ^ (numerator.log2 + 1) :=
        Nat.mul_le_mul_right _ (Nat.log2_self_le (Nat.pos_iff_ne_zero.mp positive))

/-- A fraction is below twice the power of two that it reaches. -/
theorem below_binaryExponent (numerator : Nat) (positive : 0 < denominator) :
    Below numerator denominator (binaryExponent numerator denominator + 1) := by
  have leading := below_leading numerator positive
  simp only [binaryExponent]
  generalize (numerator.log2 : Int) - denominator.log2 = estimate at *
  -- Where the estimate does not fit, the fraction is below it.
  by_cases up : 0 ≤ estimate
  · simp only [up, if_true]
    split
    · exact leading
    · next unfit => exact ⟨estimate.toNat, 0, by omega, by simpa using unfit⟩
  · simp only [up, if_false]
    split
    · exact leading
    · next unfit => exact ⟨0, (-estimate).toNat, by omega, by simpa using unfit⟩

/-- A quotient below a bound is at most that much when it is rounded. -/
theorem roundedQuotient_le {bound : Nat} (small : numerator / denominator < bound) :
    roundedQuotient numerator denominator ≤ bound := by
  simp only [roundedQuotient]
  split <;> omega

/-- At its last place, a fraction has at most fifty-three bits, but for one that rounding may carry over. -/
theorem roundedAt_le (numerator denominator : Nat) :
    roundedAt numerator denominator (lastPlace numerator denominator) ≤ Nat.pow 2 53 := by
  generalize place : lastPlace numerator denominator = exponent
  rcases Nat.eq_zero_or_pos denominator with rfl | positive
  · -- A quotient by zero is zero.
    rw [roundedAt]
    split <;> exact roundedQuotient_le (by simp)
  have below : Below numerator denominator (exponent + 53) :=
    (below_binaryExponent numerator positive).mono (by simp only [lastPlace] at place; omega)
  rw [roundedAt]
  split
  · next up =>
    have less := below.across (exponent.toNat + 53) 0 (by omega)
    refine roundedQuotient_le ((Nat.div_lt_iff_lt_mul (Nat.mul_pos positive (Nat.two_pow_pos _))).mpr ?_)
    simp only [Nat.pow_eq, Nat.pow_add, Nat.pow_zero, Nat.mul_one] at less ⊢
    rwa [Nat.mul_comm (2 ^ 53), Nat.mul_assoc]
  · next down =>
    have less := below.across 53 (-exponent).toNat (by omega)
    refine roundedQuotient_le ((Nat.div_lt_iff_lt_mul positive).mpr ?_)
    simpa [Nat.mul_comm] using less

/-- A number of at most as many bits as are kept is a double once its factors of two are in the exponent. -/
theorem isDouble_reduced (negative : Bool) (small : mantissa ≤ Nat.pow 2 53) (least : -1074 ≤ exponent)
    (most : mantissa.log2 + exponent ≤ 1023) : (Floating.reduced negative mantissa exponent).IsDouble := by
  fun_induction Floating.reduced negative mantissa exponent with
  | case1 => exact .inl ⟨rfl, rfl⟩
  | case2 mantissa exponent some even ih =>
    -- What the exponent gains, the mantissa loses.
    rw [Nat.log2_def, if_pos (by omega)] at most
    exact ih (by omega) (by omega) (by omega)
  | case3 mantissa exponent some odd =>
    rw [Nat.pow_eq] at small
    exact .inr ⟨by omega, by rw [Nat.pow_eq]; omega, least, most⟩

end Bounds

/-- The number of double precision nearest to a fraction, a half to the even neighbour. -/
def rounded (negative : Bool) (numerator denominator : Nat) : Floating :=
  if numerator = 0 then .finite negative 0 0
  else
    let exponent := lastPlace numerator denominator
    let mantissa := roundedAt numerator denominator exponent
    if 971 < exponent || (exponent == 971 && Nat.pow 2 53 ≤ mantissa) then .infinite negative
    else .reduced negative mantissa exponent

/-- What is rounded is a double. -/
theorem isDouble_rounded (negative : Bool) (numerator denominator : Nat) :
    (rounded negative numerator denominator).IsDouble := by
  simp only [rounded]
  split
  · exact .inl ⟨rfl, rfl⟩
  have small := roundedAt_le numerator denominator
  rw [Nat.pow_eq] at small
  have least : -1074 ≤ lastPlace numerator denominator := by
    simp only [lastPlace]
    omega
  generalize lastPlace numerator denominator = exponent at *
  generalize roundedAt numerator denominator exponent = mantissa at *
  split
  · trivial
  · next within =>
    simp only [Nat.pow_eq, Bool.or_eq_true, decide_eq_true_eq, Bool.and_eq_true, beq_iff_eq, not_or, not_and] at within
    have bits (count : Nat) (fewer : mantissa < 2 ^ (count + 1)) : mantissa.log2 ≤ count := by
      rcases Nat.eq_zero_or_pos mantissa with rfl | positive
      · simp
      · exact Nat.le_of_lt_succ ((Nat.log2_lt (Nat.pos_iff_ne_zero.mp positive)).mpr fewer)
    refine isDouble_reduced negative small least ?_
    -- Only with the largest exponent is a mantissa that was carried over too large.
    by_cases last : exponent = 971
    · have := bits 52 (Nat.lt_of_not_le (within.2 last))
      omega
    · have := bits 53 (by omega)
      omega

/-- No number, as a double. -/
def nan : Double :=
  ⟨.nan, trivial⟩

/-- An infinite double. -/
def infinite (negative : Bool) : Double :=
  ⟨.infinite negative, trivial⟩

/-- Zero, which has a sign. -/
def zero (negative : Bool) : Double :=
  ⟨.finite negative 0 0, .inl ⟨rfl, rfl⟩⟩

/-- The double nearest to a fraction, a half to the even neighbour. -/
def ofRatio (negative : Bool) (numerator denominator : Nat) : Double :=
  ⟨rounded negative numerator denominator, isDouble_rounded negative numerator denominator⟩

/-- The number of decimal digits of a number; zero has none. -/
def digitCount (n : Nat) : Nat :=
  if n = 0 then 0 else digitCount (n / 10) + 1

/-- The double nearest to `± digits · 10 ^ exponent`. -/
def ofDecimal (negative : Bool) (digits : Nat) (exponent : Int) : Double :=
  let magnitude := (digitCount digits : Int) + exponent
  -- Far outside the range of doubles the answer is known without any large power.
  if digits = 0 || magnitude < -330 then zero negative
  else if 310 < magnitude then infinite negative
  else if 0 ≤ exponent then ofRatio negative (digits * Nat.pow 10 exponent.toNat) 1
  else ofRatio negative digits (Nat.pow 10 (-exponent).toNat)

/-- The double nearest to an integer. -/
def ofInt (n : Int) : Double :=
  ofRatio (n < 0) n.natAbs 1

/-- Whether the number is zero, of either sign. -/
def isZero (x : Double) : Bool :=
  x.value.isZero

/-- A sign makes no difference to what is a double. -/
theorem isDouble_negate (x : Double) : x.value.negate.IsDouble := by
  obtain ⟨value, isDouble⟩ := x
  cases value <;> exact isDouble

/-- The number with the opposite sign. -/
def negate (x : Double) : Double :=
  ⟨x.value.negate, x.isDouble_negate⟩

/-- The double nearest to `± factor · 2 ^ exponent`. -/
def ofScaled (negative : Bool) (factor : Nat) (exponent : Int) : Double :=
  ofRatio negative (factor * Nat.pow 2 exponent.toNat) (Nat.pow 2 (-exponent).toNat)

/-- The sum, rounded to the nearest double. -/
def add (x y : Double) : Double :=
  match x.value, y.value with
  | .nan, _ | _, .nan => nan
  | .infinite a, .infinite b => if a == b then infinite a else nan
  | .infinite a, _ | _, .infinite a => infinite a
  | .finite a m e, .finite b n f =>
    -- Both numbers are integers on the finer of the two grids.
    let low := min e f
    let p : Int := m * Nat.pow 2 (e - low).toNat
    let q : Int := n * Nat.pow 2 (f - low).toNat
    let sum := (if a then -p else p) + (if b then -q else q)
    if sum == 0 then zero (a && b) else ofScaled (sum < 0) sum.natAbs low

/-- The product, rounded to the nearest double. -/
def mul (x y : Double) : Double :=
  match x.value, y.value with
  | .nan, _ | _, .nan => nan
  | .finite a m e, .finite b n f => ofScaled (a != b) (m * n) (e + f)
  | _, _ => if x.isZero || y.isZero then nan else infinite (x.value.isNegative != y.value.isNegative)

/-- The double nearest to an integer, unless that is too large for any. -/
def ofNat? (n : Nat) : Option Double :=
  match (ofInt n).value with
  | .infinite _ => none
  | _ => some (ofInt n)

end Double

end TypedClient
